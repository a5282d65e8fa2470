import Mathlib.Data.List.Induction
import PatrolBot.ExecutorOwners

/-!
# What a stop covers

`_stop` takes hold of the undock that runs or of the active goal.  A destination
that was sent and is not answered yet is in neither slot: a stop carried out
while such a request is still wanted lets the goal through when it is accepted
later, unless the command was marked for cancellation in its own slot.
-/

namespace PatrolBot

namespace Owners

/-- The request's acceptance will be turned down: a motor disable or a newer
    destination came after it. -/
def Superseded (o : Owners) (request : NavRequest) : Prop :=
  request.generation < o.motorDisableGeneration ∨
    request.navigationGeneration < o.navigationGeneration

/-- The slot holds the request's command with the cancel mark, and no other
    unanswered request carries the same command. -/
def MarkedAlone (o : Owners) (request : NavRequest) : Prop :=
  (o.pendingFor request.commandId).any (·.cancel) = true ∧
    ∀ other ∈ o.navRequests, other.commandId = request.commandId → other = request

/-- Adopting the request requests its cancel, or it is not adopted at all. -/
def Covered (o : Owners) (request : NavRequest) : Prop :=
  o.Superseded request ∨ o.MarkedAlone request

/-- The unanswered requests carry generations of the past or present. -/
def Dated (o : Owners) : Prop :=
  ∀ request ∈ o.navRequests, request.generation ≤ o.motorDisableGeneration ∧
    request.navigationGeneration ≤ o.navigationGeneration

theorem not_superseded_of_wanted {o : Owners} {request : NavRequest} (h : o.Wanted request) :
    ¬ o.Superseded request := by
  rintro (hlt | hlt)
  · exact hlt.ne h.1
  · exact hlt.ne h.2.1

theorem Covered.mark {o : Owners} {request : NavRequest} (h : o.Covered request)
    (commandId : String) : (o.mark commandId).Covered request := by
  refine h.imp id (And.imp_left fun hmarked => ?_)
  cases hpending : o.pending with
  | none => simp [pendingFor, hpending] at hmarked
  | some pending =>
    by_cases hid : pending.commandId = request.commandId
    · have hcancel : pending.cancel = true := by
        simpa [pendingFor, hpending, hid] using hmarked
      by_cases hother : request.commandId = commandId
      · simp [Owners.mark, pendingFor, hpending, hid, hother]
      · simp [Owners.mark, pendingFor, hpending, hid, hcancel, hother]
    · simp [pendingFor, hpending, hid] at hmarked

/-- The answer to another request leaves a covered one covered. -/
theorem Covered.answer {o : Owners} {request other : NavRequest} (h : o.Covered request) :
    (o.answer other).Covered request :=
  h.imp id <| And.imp_right fun halone another hmem =>
    halone another (List.mem_of_mem_erase hmem)

/-- Clearing the slot for another command's response leaves a covered request
    covered. -/
theorem Covered.clear {o : Owners} {request other : NavRequest} (h : o.Covered request)
    (hmem : other ∈ o.navRequests) (hne : other ≠ request) :
    ((o.answer other).clear other.commandId).Covered request := by
  rcases h with hsuperseded | ⟨hmarked, halone⟩
  · left
    unfold Owners.clear
    split <;> exact hsuperseded
  · have hids : other.commandId ≠ request.commandId := fun heq => hne (halone other hmem heq)
    have hslot : ((o.answer other).pendingFor other.commandId).isSome = false := by
      cases hpending : o.pending with
      | none => simp [pendingFor, Owners.answer, hpending]
      | some pending =>
        have hid : pending.commandId = request.commandId := by
          by_contra hid
          simp [pendingFor, hpending, hid] at hmarked
        have : pending.commandId ≠ other.commandId := fun heq => hids (heq.symm.trans hid)
        simp [pendingFor, Owners.answer, hpending, this]
    rw [Owners.clear, if_neg (by simp [hslot])]
    exact Covered.answer (.inr ⟨hmarked, halone⟩)

end Owners

namespace Executor

variable (config : ExecutorConfig)

/-- The slot is empty while an undock runs. -/
def SlotFree (s : Executor) : Prop := s.navPending.isSome = true → s.undockActive = none

/-- What holds in every state of a run. -/
structure Sound (s : Executor) : Prop where
  numbered : s.Numbered
  dated : s.owners.Dated
  slot : s.SlotFree

theorem sound_init : ({} : Executor).Sound :=
  ⟨numbered_init, by simp [Owners.Dated, owners], by simp [SlotFree]⟩

theorem dated_clear {o : Owners} (h : o.Dated) (commandId : String) :
    (o.clear commandId).Dated := by
  unfold Owners.clear
  split <;> exact h

theorem dated_answer {o : Owners} (h : o.Dated) (request : NavRequest) :
    (o.answer request).Dated :=
  fun other hmem => h other (List.mem_of_mem_erase hmem)

theorem dated_step {s : Executor} (event : ExecutorEvent × ClientAnswers) (h : s.owners.Dated) :
    (s.step config event).1.owners.Dated := by
  obtain ⟨o, hstep, hleaves⟩ := step_moves config s event
  rw [hleaves.owners]
  cases hstep with
  | disable =>
    exact fun request hmem => ⟨(h request hmem).1.trans (Nat.le_succ _), (h request hmem).2⟩
  | send =>
    intro request hmem
    rcases List.mem_cons.mp hmem with rfl | hmem
    · exact ⟨le_rfl, le_rfl⟩
    · exact ⟨(h request hmem).1, (h request hmem).2.trans (Nat.le_succ _)⟩
  | sendRaised =>
    exact fun request hmem => ⟨(h request hmem).1, (h request hmem).2.trans (Nat.le_succ _)⟩
  | drop request => exact dated_answer h request
  | decline request => exact dated_clear (dated_answer h request) _
  | adopt request => exact dated_clear (dated_answer h request) _
  | _ => exact h

theorem slotFree_step {s : Executor} (event : ExecutorEvent × ClientAnswers) (h : s.SlotFree) :
    (s.step config event).1.SlotFree := by
  obtain ⟨o, hstep, hleaves⟩ := step_moves config s event
  have hslot : s.owners.pending.isSome = true → s.owners.undock = false := by
    simpa [SlotFree, owners] using h
  suffices hkept : o.pending.isSome = true → o.undock = false by
    intro hpending
    have hundock : (s.step config event).1.owners.undock = false := by
      rw [hleaves.owners]
      refine hkept ?_
      rw [← hleaves.owners]
      exact hpending
    simpa [owners] using hundock
  have hclear : ∀ (o : Owners) (commandId : String),
      (o.pending.isSome = true → o.undock = false) →
      (o.clear commandId).pending.isSome = true → (o.clear commandId).undock = false := by
    intro o commandId ho
    unfold Owners.clear
    split
    · simp
    · exact ho
  cases hstep with
  | mark _ _ commandId => simpa [Owners.mark] using hslot
  | send call answers _ hundock _ _ _ =>
    exact fun _ => by simp [Owners.owe, Owners.send, owners, hundock]
  | sendRaised call answers _ hundock _ _ _ => exact fun _ => by simp [Owners.send, owners, hundock]
  | decline request => exact hclear _ _ hslot
  | adopt request => exact hclear _ _ hslot
  | undock call answers _ hstarts =>
    intro hpending
    have hidle := hstarts.idle
    have hbusy : s.navPending.isSome = true := hpending
    simp only [undockRefusal, hbusy, or_true, if_true] at hidle
    split at hidle
    · simp at hidle
    · split at hidle
      · simp at hidle
      · split at hidle
        · simp at hidle
        · split at hidle <;> simp at hidle
  | endUndock => exact fun _ => rfl
  | _ => exact hslot

theorem sound_step {s : Executor} (event : ExecutorEvent × ClientAnswers) (h : s.Sound) :
    (s.step config event).1.Sound :=
  ⟨numbered_step config event h.numbered, dated_step config event h.dated,
    slotFree_step config event h.slot⟩

/-- **Run lemma.**  Every state of a run is sound. -/
theorem sound_run (events : List (ExecutorEvent × ClientAnswers)) :
    ((commandExecutor config).run {} events).Sound :=
  (commandExecutor config).invariant Sound
    (fun _ event _ h => sound_step config event h) sound_init
    ((commandExecutor config).along_true {} events)

/-! ### The guard -/

/-- A stop that is carried out finds every unanswered destination covered, and
    taking the result of a marked destination does not raise. -/
def StopCovered (s : Executor) (event : ExecutorEvent × ClientAnswers) : Prop :=
  match event with
  | (.handle call, _) => call.request.command = .stop → invalidSeed call.request = false →
      ∀ request ∈ s.navRequests, s.owners.Covered request
  | (.goalResponse number .accepted, answers) => answers.resultRaises .navigation = true →
      ∀ request ∈ s.navRequests, request.request = number →
        ¬ (s.owners.pendingFor request.commandId).any (·.cancel) = true
  | _ => True

/-- The request is harmless from here on: it was sent, and whatever is left of
    it is covered. -/
structure Harmless (number : Nat) (s : Executor) : Prop where
  sent : number < s.nextRequest
  covered : ∀ request ∈ s.navRequests, request.request = number → s.owners.Covered request

/-- **Step lemma.**  A harmless request stays harmless. -/
theorem harmless_step {number : Nat} {s : Executor} (hsound : s.Sound)
    (event : ExecutorEvent × ClientAnswers) (h : Harmless number s) :
    Harmless number (s.step config event).1 := by
  obtain ⟨o, hstep, hleaves⟩ := step_moves config s event
  refine ⟨h.sent.trans_le hleaves.next, ?_⟩
  have hrequests : (s.step config event).1.navRequests = o.navRequests := by
    rw [← hleaves.owners]; rfl
  rw [hleaves.owners, hrequests]
  cases hstep with
  | mark _ _ commandId => exact fun request hmem hnumber => (h.covered request hmem hnumber).mark _
  | disable =>
    intro request hmem hnumber
    exact .inl (.inl (Nat.lt_succ_of_le (hsound.dated request hmem).1))
  | send call answers _ _ _ _ _ =>
    intro request hmem hnumber
    rcases List.mem_cons.mp hmem with rfl | hmem
    · exact absurd hnumber h.sent.ne'
    · exact .inl (.inr (Nat.lt_succ_of_le (hsound.dated request hmem).2))
  | sendRaised =>
    intro request hmem hnumber
    exact .inl (.inr (Nat.lt_succ_of_le (hsound.dated request hmem).2))
  | drop other => exact fun request hmem hnumber =>
      (h.covered request (List.mem_of_mem_erase hmem) hnumber).answer
  | decline other _ _ howed =>
    intro request hmem hnumber
    rw [navRequests_clear] at hmem
    obtain ⟨hne, hmem⟩ := (hsound.numbered.nodup.mem_erase_iff).mp hmem
    exact (h.covered request hmem hnumber).clear howed hne.symm
  | adopt other _ _ howed =>
    intro request hmem hnumber
    have hmem' : request ∈ s.navRequests.erase other := by
      rw [Owners.adopt, navRequests_clear] at hmem
      exact hmem
    obtain ⟨hne, hmem⟩ := (hsound.numbered.nodup.mem_erase_iff).mp hmem'
    exact (h.covered request hmem hnumber).clear howed hne.symm
  | _ => exact h.covered

/-- A harmless request that becomes the active goal is cancelled in the same
    callback. -/
theorem cancel_of_harmless {number : Nat} {s : Executor} (hsound : s.Sound)
    {event : ExecutorEvent × ClientAnswers} (hguard : StopCovered s event)
    (h : Harmless number s) (hbefore : s.owners.active ≠ some number)
    (hafter : (s.step config event).1.owners.active = some number) :
    .cancelNavigation number ∈ (s.step config event).2 := by
  obtain ⟨o, hstep, hleaves⟩ := step_moves config s event
  rw [hleaves.owners] at hafter
  have hclear : ∀ (o : Owners) (commandId : String), (o.clear commandId).active = o.active := by
    intro o commandId
    unfold Owners.clear
    split <;> rfl
  generalize hemits : (s.step config event).2 = emits at hstep ⊢
  cases hstep with
  | adopt request answers _ howed hwanted hcancels =>
    obtain rfl : request.request = number := Option.some.inj hafter
    rcases h.covered request howed rfl with hsuperseded | ⟨hmarked, -⟩
    · exact absurd hsuperseded (Owners.not_superseded_of_wanted hwanted)
    · refine hcancels (hsound.slot ?_) ?_ hmarked
      · cases hpending : s.navPending with
        | none => simp [Owners.pendingFor, owners, hpending] at hmarked
        | some pending => rfl
      · cases hraises : answers.resultRaises .navigation with
        | false => rfl
        | true => exact absurd hmarked (hguard hraises request howed rfl)
  | finish => simp [Owners.finish] at hafter
  | decline request => exact absurd ((hclear _ _).symm.trans hafter) hbefore
  | _ => exact absurd hafter hbefore

/-! ### Runs -/

/-- The emits of a history, in order. -/
def emitted (history : List ((ExecutorEvent × ClientAnswers) × List ExecutorEmit)) :
    List ExecutorEmit :=
  history.flatMap Prod.snd

/-- The event is the frame of the stop `commandId`. -/
def IsStop (commandId : String) (event : ExecutorEvent × ClientAnswers) : Prop :=
  ∃ call answers, event = (.handle call, answers) ∧ call.request.command = .stop ∧
    call.request.commandId = commandId

/-- A stop covers what was sent before it: once it was accepted and answered
    with `succeeded`, no destination sent before it becomes the active goal
    without a cancel being requested for it in the same callback. -/
def StopCovers (events : List (ExecutorEvent × ClientAnswers)) : Prop :=
  ∀ before stop during response after stopId request,
    events = before ++ stop :: (during ++ response :: after) → IsStop stopId stop →
    (.ack stopId true none ∈
      ((commandExecutor config).step ((commandExecutor config).run {} before) stop).2) →
    (∃ detail, .result stopId .succeeded detail none none ∈
      emitted ((commandExecutor config).trace ((commandExecutor config).run {} before)
        (stop :: during))) →
    request ∈ sent (emitted ((commandExecutor config).trace {} before)) →
    ((commandExecutor config).run {} (before ++ stop :: during)).owners.active ≠ some request →
    ((commandExecutor config).run {} (before ++ stop :: (during ++ [response]))).owners.active =
      some request →
    .cancelNavigation request ∈ ((commandExecutor config).step
      ((commandExecutor config).run {} (before ++ stop :: during)) response).2

/-- Every destination sent in a run carries a number below the next one. -/
theorem sent_lt_nextRequest (events : List (ExecutorEvent × ClientAnswers)) :
    ∀ request ∈ sent (emitted ((commandExecutor config).trace {} events)),
      request < ((commandExecutor config).run {} events).nextRequest := by
  refine (commandExecutor config).history_invariant
    (fun history s => ∀ request ∈ sent (emitted history), request < s.nextRequest)
    ?_ (by simp [emitted]) ((commandExecutor config).along_true {} events)
  intro history s event _ h request hmem
  obtain ⟨o, -, hleaves⟩ := step_moves config s event
  simp only [emitted, List.flatMap_append, List.flatMap_cons, List.flatMap_nil, List.append_nil,
    sent_append, List.mem_append] at hmem
  rcases hmem with hmem | hmem
  · exact (h request hmem).trans_le hleaves.next
  · exact (hleaves.sent request hmem).2

/-- An accepted stop is one that is carried out. -/
theorem seed_of_ack {s : Executor} {call : HandleCall} {answers : ClientAnswers}
    (h : .ack call.request.commandId true none ∈ (s.handle config answers call).2) :
    invalidSeed call.request = false := by
  by_contra hseed
  rw [Bool.not_eq_false] at hseed
  simp [handle, hseed] at h

/-- **Stop coverage.**  In every run in which each stop that is carried out finds
    the unanswered destinations superseded or marked for cancellation in their
    slot, a stop covers what was sent before it. -/
theorem stopCovers_run (events : List (ExecutorEvent × ClientAnswers))
    (halong : (commandExecutor config).Along StopCovered {} events) :
    StopCovers config events := by
  rintro before stop during response after stopId request rfl ⟨call, answers, rfl, hcommand, rfl⟩
    hack - hsent hbefore hafter
  rw [Machine.along_append] at halong
  obtain ⟨-, hstop, halong⟩ := halong
  rw [Machine.along_append] at halong
  obtain ⟨-, hresponse, -⟩ := halong
  have hseed := seed_of_ack config hack
  -- Before the stop the request is harmless by the guard, from then on by the step lemma.
  have hharmless : Harmless request ((commandExecutor config).run {} before) :=
    ⟨sent_lt_nextRequest config before request hsent,
      fun owed hmem _ => hstop hcommand hseed owed hmem⟩
  have hrun : ∀ (later : List (ExecutorEvent × ClientAnswers)),
      Harmless request ((commandExecutor config).run {} (before ++ later)) := by
    intro later
    induction later using List.reverseRecOn with
    | nil => simpa using hharmless
    | append_singleton later event ih =>
      rw [← List.append_assoc, Machine.run_append]
      exact harmless_step config (sound_run config _) event ih
  have hstate : (commandExecutor config).run
      ((commandExecutor config).step ((commandExecutor config).run {} before)
        (.handle call, answers)).1 during =
      (commandExecutor config).run {} (before ++ (.handle call, answers) :: during) := by
    rw [Machine.run_append]
    rfl
  rw [hstate] at hresponse
  refine cancel_of_harmless config (sound_run config _) hresponse (hrun _) hbefore ?_
  have hlast : before ++ (ExecutorEvent.handle call, answers) :: (during ++ [response]) =
      (before ++ (.handle call, answers) :: during) ++ [response] := by simp
  rw [hlast, Machine.run_append] at hafter
  exact hafter

/-- A stop after the unanswered destination was marked by a cancel. -/
theorem stopCovers_of_marked :
    StopCovers fullRobot [readyFrame "go" .navigateToPose, readyFrame "go" .cancel,
      readyFrame "halt" .stop, (.goalResponse 0 .accepted, allReady)] := by
  refine stopCovers_run fullRobot _ ⟨fun h => absurd h (by decide), fun h => absurd h (by decide),
    ?_, fun h => absurd h (by decide), trivial⟩
  intro _ _ request hmem
  have howed : ((commandExecutor fullRobot).run {} [readyFrame "go" .navigateToPose,
      readyFrame "go" .cancel]).navRequests = [⟨0, "go", 0, none, 1⟩] := by decide +kernel
  have hmarked : (((commandExecutor fullRobot).run {} [readyFrame "go" .navigateToPose,
      readyFrame "go" .cancel]).owners.pendingFor "go").any (·.cancel) = true := by decide +kernel
  simp only [Machine.run_cons, Machine.run_nil] at howed hmarked
  rw [howed, List.mem_singleton] at hmem
  subst hmem
  refine .inr ⟨hmarked, fun other hother _ => ?_⟩
  exact List.mem_singleton.mp (howed ▸ hother)

/-- A stop while the destination is unanswered is told that the robot was not
    navigating, and the goal is adopted later without a cancel. -/
theorem not_stopCovers_of_unanswered :
    ¬ StopCovers fullRobot [readyFrame "go" .navigateToPose, readyFrame "halt" .stop,
      (.goalResponse 0 .accepted, allReady)] := by
  intro h
  have hcancel := h [readyFrame "go" .navigateToPose] (readyFrame "halt" .stop) []
    (.goalResponse 0 .accepted, allReady) [] "halt" 0 rfl ⟨_, _, rfl, rfl, rfl⟩
    (by decide +kernel) ⟨some "The robot was not navigating.", by decide +kernel⟩
    (by decide +kernel) (by decide +kernel) (by decide +kernel)
  exact absurd hcancel (by decide +kernel)

end Executor

end PatrolBot
