import PatrolBot.ExecutorLedger

/-!
# The motor-disable barrier

`_motor_disable` asks for the cancel of every goal that runs, and moves the
generation on, so that a goal accepted later is recognised as one from before.
Whatever was sent before a motor disable has its cancel requested: at once if it
runs, with its acceptance if that comes later.
-/

namespace PatrolBot

/-- No client call raises. -/
structure ClientAnswers.Calm (answers : ClientAnswers) : Prop where
  send : ∀ kind, answers.sendRaises kind = false
  cancel : ∀ kind, answers.cancelRaises kind = false
  result : ∀ kind, answers.resultRaises kind = false
  service : answers.serviceRaises = false
  lidar : answers.lidarRaises = false

/-- The request was sent and waits for its response. -/
def Goals.Unanswered (g : Goals) : ActionKind → Nat → Prop
  | .navigation, number => ∃ request ∈ g.navRequests, request.request = number
  | .undock, number => ∃ request ∈ g.undockRequests, request.request = number
  | .map, number => number ∈ g.mapRequests

/-- The server accepts the request. -/
def ExecutorEvent.acceptance : ActionKind → Nat → ExecutorEvent
  | .navigation, number => .goalResponse number .accepted
  | .undock, number => .undockResponse number .accepted
  | .map, number => .mapResponse number .accepted

/-- Requests numbered below were sent before a motor disable: their acceptance
    will be recognised as late, or is marked for its cancel. -/
structure Goals.Barred (below : Nat) (g : Goals) : Prop where
  next : below ≤ g.nextRequest
  navRequests : ∀ request ∈ g.navRequests, request.request < below →
    request.generation < g.generation
  undockRequests : ∀ request ∈ g.undockRequests, request.request < below →
    request.generation < g.generation
  map : ∀ map, g.map = some map → map.request < below → map.cancel = true

section

variable {event : ExecutorEvent × ClientAnswers} {g g' : Goals} {emits : List ExecutorEmit}

theorem Act.map_barred {below : Nat} (h : Act event g emits g') (hnext : below ≤ g.nextRequest)
    (hg : ∀ map, g.map = some map → map.request < below → map.cancel = true) :
    ∀ map, g'.map = some map → map.request < below → map.cancel = true := by
  intro map hmap hbelow
  cases h with
  | sendMap =>
    obtain rfl := Option.some.inj hmap
    exact absurd hbelow (not_lt_of_ge hnext)
  | markMap =>
    obtain rfl := Option.some.inj hmap
    rfl
  | acceptMap accepted _ _ _ map_eq _ _ _ =>
    obtain rfl := Option.some.inj hmap
    exact hg accepted map_eq hbelow
  | refuseMap => cases hmap
  | abandonMap => cases hmap
  | endMap => cases hmap
  | _ => exact hg map hmap hbelow

/-- **Step lemma.**  What was sent before a motor disable stays barred. -/
theorem Act.barred {below : Nat} (h : Act event g emits g') (hg : g.Barred below) :
    g'.Barred below := by
  have hgeneration := h.generation_le
  refine ⟨hg.next.trans h.nextRequest_le, ?_, ?_, h.map_barred hg.next hg.map⟩
  · intro request hmem hbelow
    rcases h.navRequests_subset with hsubset | ⟨sent, hcons, hnumber, -, -⟩
    · exact (hg.navRequests request (hsubset hmem) hbelow).trans_le hgeneration
    · rw [hcons] at hmem
      rcases List.mem_cons.mp hmem with rfl | hmem
      · exact absurd (hnumber ▸ hbelow) (not_lt_of_ge hg.next)
      · exact (hg.navRequests request hmem hbelow).trans_le hgeneration
  · intro request hmem hbelow
    rcases h.undockRequests_subset with hsubset | ⟨sent, hcons, hnumber, -, -⟩
    · exact (hg.undockRequests request (hsubset hmem) hbelow).trans_le hgeneration
    · rw [hcons] at hmem
      rcases List.mem_cons.mp hmem with rfl | hmem
      · exact absurd (hnumber ▸ hbelow) (not_lt_of_ge hg.next)
      · exact (hg.undockRequests request hmem hbelow).trans_le hgeneration

/-- An accepted map goal with the mark has had its cancel requested. -/
def MapAsked (asked : List (ActionKind × Nat)) (g : Goals) : Prop :=
  ∀ map, g.map = some map → map.accepted = true → map.cancel = true →
    (.map, map.request) ∈ asked

theorem Act.mapAsked {asked : List (ActionKind × Nat)}
    (hcalm : event.2.resultRaises .map = false) (h : Act event g emits g')
    (hg : MapAsked asked g) : MapAsked (asked ++ cancels emits) g' := by
  intro map hmap haccepted hcancel
  have hkept : g.map = some map → (.map, map.request) ∈ asked ++ cancels emits :=
    fun hmap => List.mem_append_left _ (hg map hmap haccepted hcancel)
  cases h with
  | sendMap =>
    obtain rfl := Option.some.inj hmap
    cases haccepted
  | markMap marked _ map_eq _ hasked =>
    obtain rfl := Option.some.inj hmap
    rw [hasked, if_pos haccepted]
    exact List.mem_append_right _ (List.mem_singleton_self _)
  | acceptMap map' awaited _ _ map_eq raises _ hasked =>
    obtain rfl := Option.some.inj hmap
    cases awaited with
    | false => simp [hcalm] at raises
    | true =>
      rw [hasked, if_pos (by simpa using hcancel)]
      exact List.mem_append_right _ (List.mem_singleton_self _)
  | refuseMap => cases hmap
  | abandonMap => cases hmap
  | endMap => cases hmap
  | _ => exact hkept hmap

theorem Acts.mapAsked {asked : List (ActionKind × Nat)}
    (hcalm : event.2.resultRaises .map = false) (h : Acts event g emits g')
    (hg : MapAsked asked g) : MapAsked (asked ++ cancels emits) g' := by
  induction h generalizing asked with
  | nil => simpa using hg
  | cons first _ ih =>
    rw [cancels_append, ← List.append_assoc]
    exact ih (first.mapAsked hcalm hg)

end

namespace Executor

variable (config : ExecutorConfig) {answers : ClientAnswers}

/-! ### What motor_disable does -/

theorem goals_callDockService (answers : ClientAnswers) (s : Executor) (commandId : String)
    (service : DockService) :
    ∃ calls, (s.callDockService config answers commandId service).1.goals =
      { s.goals with calls := calls } := by
  unfold callDockService
  split
  · exact ⟨_, rfl⟩
  · split
    · exact ⟨_, rfl⟩
    · split
      · exact ⟨_, rfl⟩
      · split
        · exact ⟨_, rfl⟩
        · exact ⟨_, rfl⟩

theorem goals_cancelMapLogged (s : Executor) : (s.cancelMapLogged answers).1.goals =
    { s.goals with map := s.goals.map.map fun map => { map with cancel := true } } := by
  unfold cancelMapLogged checkMapConnection
  cases hmap : s.mapActive with
  | none => simp [goals, hmap]
  | some map =>
    cases hcancel : map.cancel with
    | true =>
      have hsame : map = { map with cancel := true } := by rw [← hcancel]
      simp only [hcancel, Bool.true_eq_false, and_false, if_false]
      simp [goals, hmap, ← hsame]
    | false =>
      simp only [hcancel, true_or, and_self, if_true]
      split
      · simp [goals, hmap]
      · split
        · simp [goals, hmap]
        · simp [goals, hmap]

theorem goals_cancelGoals (s : Executor) : s.cancelGoals.1.goals =
    { s.goals with
      undock := s.goals.undock.map fun undock => { undock with cancelRequested := true } } := by
  cases hactive : s.active <;> cases hundock : s.undockActive <;>
    simp [cancelGoals, goals, hactive, hundock, ActiveGoal.running, ActiveUndock.running]

theorem cancels_cancelGoals {s : Executor} {kind : ActionKind} {number : Nat}
    (h : s.goals.Runs kind number) (hkind : kind ≠ .map) :
    (kind, number) ∈ cancels s.cancelGoals.2 := by
  unfold cancelGoals
  rw [cancels_append]
  cases kind with
  | navigation =>
    obtain ⟨running, hrunning, rfl⟩ := h
    obtain ⟨active, hactive, rfl⟩ := Option.map_eq_some_iff.mp hrunning
    refine List.mem_append_left _ ?_
    rw [hactive]
    exact List.mem_singleton_self _
  | undock =>
    obtain ⟨running, hrunning, hruns, rfl⟩ := h
    obtain ⟨undock, hundock, rfl⟩ := Option.map_eq_some_iff.mp hrunning
    have haccepted : undock.accepted = true := hruns
    refine List.mem_append_right _ ?_
    rw [hundock]
    simp only [haccepted, if_true]
    exact List.mem_singleton_self _
  | map => exact absurd rfl hkind

theorem cancels_cancelMapLogged {s : Executor} {map : ActiveMap} (hmap : s.mapActive = some map)
    (haccepted : map.accepted = true) (hcancel : map.cancel = false) :
    (.map, map.request) ∈ cancels (s.cancelMapLogged answers).2 := by
  unfold cancelMapLogged checkMapConnection
  simp only [hmap, hcancel, haccepted, true_or, and_self, if_true, Bool.true_eq_false, if_false]
  split
  · exact List.mem_singleton_self _
  · exact List.mem_singleton_self _

/-- Giving up the path of the goal that runs leaves the goals as they are. -/
theorem goals_blockPath (s : Executor) :
    (clearNavigationPath { s with
      active := s.active.map fun active => { active with pathBlocked := true } }).1.goals =
      s.goals := by
  rw [goals_clearNavigationPath]
  cases hactive : s.active <;> simp [goals, hactive, ActiveGoal.running]

/-- What `_motor_disable` leaves: a new generation, and marks on what runs. -/
theorem goals_motorDisable (s : Executor) (commandId : String)
    (hcalm : answers.serviceRaises = false) : ∃ calls,
    (s.motorDisable config answers commandId).1.goals = { s.goals with
      generation := s.goals.generation + 1
      calls := calls
      undock := s.goals.undock.map fun undock => { undock with cancelRequested := true }
      map := s.goals.map.map fun map => { map with cancel := true } } := by
  have hblocked := goals_blockPath s
  unfold motorDisable
  simp only [hcalm, Bool.false_eq_true, and_false, if_false, andThen_fst]
  generalize clearNavigationPath { s with
    active := s.active.map fun active => { active with pathBlocked := true } } = blocked at *
  obtain ⟨calls, hcalls⟩ := goals_callDockService config answers
    { blocked.1 with motorDisableGeneration := blocked.1.motorDisableGeneration + 1 } commandId
    .motorDisable
  refine ⟨calls, ?_⟩
  rw [goals_cancelGoals, goals_cancelMapLogged, hcalls, ← hblocked]
  rfl

/-- `_motor_disable` requests the cancel of every goal that runs; a map
    localization that is cancelled already is left alone. -/
theorem cancels_motorDisable {s : Executor} {kind : ActionKind} {number : Nat}
    (commandId : String) (hcalm : answers.serviceRaises = false)
    (hruns : s.goals.Runs kind number)
    (hcancel : ∀ map, s.goals.map = some map → kind = .map → map.cancel = false) :
    (kind, number) ∈ cancels (s.motorDisable config answers commandId).2 := by
  have hblocked := goals_blockPath s
  unfold motorDisable
  simp only [hcalm, Bool.false_eq_true, and_false, if_false, andThen_snd, andThen_fst]
  generalize clearNavigationPath { s with
    active := s.active.map fun active => { active with pathBlocked := true } } = blocked at *
  obtain ⟨calls, hcalls⟩ := goals_callDockService config answers
    { blocked.1 with motorDisableGeneration := blocked.1.motorDisableGeneration + 1 } commandId
    .motorDisable
  generalize callDockService config answers
    { blocked.1 with motorDisableGeneration := blocked.1.motorDisableGeneration + 1 } commandId
    .motorDisable = called at *
  have hcalled : called.1.goals =
      { s.goals with generation := s.goals.generation + 1, calls := calls } := by
    rw [hcalls, ← hblocked]
    rfl
  rw [cancels_append, cancels_append, cancels_append]
  refine List.mem_append_right _ ?_
  by_cases hkind : kind = .map
  · subst hkind
    obtain ⟨map, hmap, haccepted, rfl⟩ := hruns
    refine List.mem_append_left _ (List.mem_append_right _ ?_)
    refine cancels_cancelMapLogged ?_ haccepted (hcancel map hmap rfl)
    exact (congrArg Goals.map hcalled).trans hmap
  · refine List.mem_append_right _ (cancels_cancelGoals ?_ hkind)
    have hruns' : ∀ g : Goals, g.active = s.goals.active → g.undock = s.goals.undock →
        g.Runs kind number := by
      intro g hactive hundock
      cases kind with
      | navigation =>
        obtain ⟨active, heq, hrequest⟩ := hruns
        exact ⟨active, hactive.trans heq, hrequest⟩
      | undock =>
        obtain ⟨undock, heq, haccepted, hrequest⟩ := hruns
        exact ⟨undock, hundock.trans heq, haccepted, hrequest⟩
      | map => exact absurd rfl hkind
    apply hruns'
    · rw [goals_cancelMapLogged, hcalled]
    · rw [goals_cancelMapLogged, hcalled]

/-! ### Late acceptances -/

theorem cancels_onGoalEvent {s : Executor} {number : Nat}
    (howed : ∃ request ∈ s.navRequests, request.request = number)
    (hlate : ∀ request ∈ s.navRequests, request.request = number →
      request.generation ≠ s.motorDisableGeneration) :
    (.navigation, number) ∈ cancels (s.onGoalEvent answers number .accepted).2 := by
  unfold onGoalEvent
  cases hfind : s.navRequests.find? (·.request = number) with
  | none =>
    obtain ⟨request, hmem, hnumber⟩ := howed
    exact absurd hnumber (by simpa using List.find?_eq_none.mp hfind request hmem)
  | some request =>
    have hnumber : request.request = number := by simpa using List.find?_some hfind
    have hne := hlate request (List.mem_of_find?_eq_some hfind) hnumber
    simp only [onGoalResponse, if_pos hne, dropGoal, ← hnumber]
    split
    · exact List.mem_singleton_self _
    · exact List.mem_singleton_self _

theorem mem_cancelAccepted (s : Executor) (undock : ActiveUndock) :
    (.undock, undock.request) ∈ cancels (s.cancelAccepted answers undock).2 := by
  have hfold : ∀ (stops : List String) (result : Executor × List ExecutorEmit),
      (.undock, undock.request) ∈ cancels result.2 →
      (.undock, undock.request) ∈ cancels (stops.foldl (fun result stop =>
        andThen result fun s =>
          s.failStop stop s!"The robot could not be asked to stop: {answers.error}.")
            result).2 := by
    intro stops
    induction stops with
    | nil => exact fun _ h => h
    | cons stop stops ih =>
      intro result h
      refine ih _ ?_
      rw [andThen_snd, cancels_append]
      exact List.mem_append_left _ h
  unfold cancelAccepted
  split
  · exact hfold _ _ (List.mem_singleton_self _)
  · exact List.mem_singleton_self _

/-- A request from before a motor disable is cancelled with its acceptance,
    whether its undock is still in the slot or not. -/
theorem cancels_onUndockEvent {s : Executor} {number : Nat}
    (hledger : UndockLedger s.goals.undock s.goals.undockRequests s.goals.undockResults)
    (hcalm : answers.resultRaises .undock = false)
    (howed : ∃ request ∈ s.undockRequests, request.request = number)
    (hlate : ∀ request ∈ s.undockRequests, request.request = number →
      request.generation ≠ s.motorDisableGeneration) :
    (.undock, number) ∈ cancels (s.onUndockEvent config answers number .accepted).2 := by
  unfold onUndockEvent
  cases hfind : s.undockRequests.find? (·.request = number) with
  | none =>
    obtain ⟨request, hmem, hnumber⟩ := howed
    exact absurd hnumber (by simpa using List.find?_eq_none.mp hfind request hmem)
  | some request =>
    have howed := List.mem_of_find?_eq_some hfind
    have hnumber : request.request = number := by simpa using List.find?_some hfind
    have hne := hlate request howed hnumber
    simp only [onUndockResponse]
    cases hslot : s.undockActive.filter fun undock => undock.commandId = request.commandId with
    | none =>
      rw [← hnumber]
      exact List.mem_cons_self
    | some undock =>
      obtain ⟨hundock, -⟩ := Option.filter_eq_some_iff.mp hslot
      have hsame : undock.request = number := by
        rw [goals_undock hundock] at hledger
        generalize s.goals.undockResults = results at hledger
        generalize hrequests : s.goals.undockRequests = requests at hledger
        have howed : request ∈ requests := hrequests ▸ howed
        cases hledger with
        | asked _ asked _ hasked _ =>
          obtain rfl := List.mem_singleton.mp howed
          exact hasked.symm.trans hnumber
        | _ => exact absurd howed List.not_mem_nil
      have hcancel : (undock.cancelRequested ||
          request.generation != s.motorDisableGeneration) = true := by simp [hne]
      simp only [hcalm, Bool.false_eq_true, if_false, hcancel, if_true, andThen_snd, cancels_append]
      refine List.mem_append_right _ ?_
      rw [← hsame]
      exact mem_cancelAccepted _ { undock with accepted := true, cancelRequested := true }

theorem cancels_onMapResponse {s : Executor} {map : ActiveMap} (hmap : s.mapActive = some map)
    (hresult : answers.resultRaises .map = false) (hcancel : map.cancel = true) :
    (.map, map.request) ∈ cancels (s.onMapResponse answers map.request .accepted).2 := by
  unfold onMapResponse
  simp only [hmap, ne_eq, not_true_eq_false, if_false, hresult, Bool.false_eq_true, hcancel,
    Bool.true_eq_false, andThen_snd, cancels_append]
  refine List.mem_append_right _ ?_
  split
  · exact List.mem_singleton_self _
  · exact List.mem_singleton_self _

/-! ### Runs -/

/-- The frame of a motor disable that is carried out. -/
def Disables (event : ExecutorEvent × ClientAnswers) : Prop :=
  ∃ call answers, event = (.handle call, answers) ∧ call.request.command = .motorDisable ∧
    invalidSeed call.request = false ∧ call.request.operatorAuthorized.isTrue = true

/-- Whatever was sent before a motor disable has its cancel requested: by the
    end of the motor disable if it runs, with its acceptance if that comes later. -/
def CancelsBarred (events : List (ExecutorEvent × ClientAnswers)) : Prop :=
  ∀ before disable after kind number,
    events = before ++ disable :: after → Disables disable →
    (((commandExecutor config).run {} before).goals.Runs kind number →
      (kind, number) ∈
        cancels (emitted ((commandExecutor config).trace {} (before ++ [disable])))) ∧
    (((commandExecutor config).run {} before).goals.Unanswered kind number →
      ∀ during response later, after = during ++ response :: later →
        response.1 = .acceptance kind number →
        ((commandExecutor config).run {} (before ++ disable :: during)).goals.Unanswered
          kind number →
        (kind, number) ∈ cancels ((commandExecutor config).step
          ((commandExecutor config).run {} (before ++ disable :: during)) response).2)

theorem step_of_disables {s : Executor} {call : HandleCall} (answers : ClientAnswers)
    (hcommand : call.request.command = .motorDisable)
    (hseed : invalidSeed call.request = false)
    (hauthorized : call.request.operatorAuthorized.isTrue = true) :
    s.step config (.handle call, answers) =
      s.motorDisable config answers call.request.commandId := by
  simp [step, handle, hseed, hcommand, motorPower, hauthorized]

theorem mapLedger_run {events : List (ExecutorEvent × ClientAnswers)}
    (hcalm : ∀ event ∈ events, event.2.Calm) :
    MapLedger ((commandExecutor config).run {} events).goals.map
      ((commandExecutor config).run {} events).goals.mapRequests
      ((commandExecutor config).run {} events).goals.mapResults :=
  (commandExecutor config).invariant
    (fun s => MapLedger s.goals.map s.goals.mapRequests s.goals.mapResults)
    (fun s event hevent h => (step_acts config s event).keeps
      (P := fun g => MapLedger g.map g.mapRequests g.mapResults)
      (Act.mapLedger (hevent.result .map) (hevent.cancel .map)) h)
    (show MapLedger ({} : Executor).goals.map _ _ from .idle)
    ((commandExecutor config).along_of_mem hcalm)

/-- **Run lemma.**  A map goal that runs with the mark has had its cancel
    requested. -/
theorem mapAsked_run {events : List (ExecutorEvent × ClientAnswers)}
    (hcalm : ∀ event ∈ events, event.2.Calm) :
    MapAsked (cancels (emitted ((commandExecutor config).trace {} events)))
      ((commandExecutor config).run {} events).goals := by
  refine (commandExecutor config).history_invariant
    (fun history s => MapAsked (cancels (emitted history)) s.goals) ?_
    (fun map hmap => by simp [goals] at hmap) ((commandExecutor config).along_of_mem hcalm)
  intro history s event hevent h
  have hasked := (step_acts config s event).mapAsked (hevent.result .map) h
  simpa [emitted, commandExecutor] using hasked

/-- A motor disable bars everything sent before it. -/
theorem barred_of_disables {s : Executor} {disable : ExecutorEvent × ClientAnswers}
    (hdisable : Disables disable) (hcalm : disable.2.Calm) (hdated : s.goals.Dated) :
    (s.step config disable).1.goals.Barred s.goals.nextRequest := by
  obtain ⟨call, answers, rfl, hcommand, hseed, hauthorized⟩ := hdisable
  rw [step_of_disables config answers hcommand hseed hauthorized]
  obtain ⟨calls, hgoals⟩ := goals_motorDisable config s call.request.commandId hcalm.service
  rw [hgoals]
  refine ⟨le_rfl, fun request hmem _ => ?_, fun request hmem _ => ?_, fun map hmap _ => ?_⟩
  · exact Nat.lt_succ_of_le (hdated.navRequests request hmem)
  · exact Nat.lt_succ_of_le (hdated.undockRequests request hmem)
  · obtain ⟨map', -, rfl⟩ := Option.map_eq_some_iff.mp hmap
    rfl

theorem unanswered_lt {g : Goals} (hnumbered : g.Numbered) {kind : ActionKind} {number : Nat}
    (h : g.Unanswered kind number) : number < g.nextRequest := by
  cases kind with
  | navigation =>
    obtain ⟨request, hmem, rfl⟩ := h
    exact hnumbered.navRequests request hmem
  | undock =>
    obtain ⟨request, hmem, rfl⟩ := h
    exact hnumbered.undockRequests request hmem
  | map => exact hnumbered.mapRequests number h

/-- The acceptance of a barred request is answered with its cancel. -/
theorem cancels_of_barred {s : Executor} {below number : Nat} {kind : ActionKind}
    {response : ExecutorEvent × ClientAnswers} (hcalm : response.2.Calm)
    (hundock : UndockLedger s.goals.undock s.goals.undockRequests s.goals.undockResults)
    (hmap : MapLedger s.goals.map s.goals.mapRequests s.goals.mapResults)
    (hbarred : s.goals.Barred below) (hbelow : number < below)
    (hresponse : response.1 = .acceptance kind number)
    (howed : s.goals.Unanswered kind number) :
    (kind, number) ∈ cancels (s.step config response).2 := by
  obtain ⟨event, answers⟩ := response
  cases kind with
  | navigation =>
    obtain rfl : event = .goalResponse number .accepted := hresponse
    refine cancels_onGoalEvent howed fun request hmem hnumber => ?_
    exact (hbarred.navRequests request hmem (hnumber ▸ hbelow)).ne
  | undock =>
    obtain rfl : event = .undockResponse number .accepted := hresponse
    refine cancels_onUndockEvent config hundock (hcalm.result .undock) howed
      fun request hmem hnumber => ?_
    exact (hbarred.undockRequests request hmem (hnumber ▸ hbelow)).ne
  | map =>
    obtain rfl : event = .mapResponse number .accepted := hresponse
    have howed : number ∈ s.mapRequests := howed
    have hledger : MapLedger s.mapActive s.mapRequests s.mapResults := hmap
    have hslot : ∃ map, s.mapActive = some map ∧ map.request = number := by
      generalize s.mapActive = slot, s.mapRequests = requests, s.mapResults = results
        at hledger howed ⊢
      cases hledger with
      | asked map _ => exact ⟨map, rfl, (List.mem_singleton.mp howed).symm⟩
      | _ => exact absurd howed List.not_mem_nil
    obtain ⟨map, hactive, rfl⟩ := hslot
    simp only [step, if_pos howed]
    refine cancels_onMapResponse ?_ (hcalm.result .map) (hbarred.map map hactive hbelow)
    exact hactive

/-- **The barrier.**  In every run in which no client call raises, whatever was
    sent before a motor disable has its cancel requested. -/
theorem cancelsBarred_run (events : List (ExecutorEvent × ClientAnswers))
    (hcalm : ∀ event ∈ events, event.2.Calm) : CancelsBarred config events := by
  rintro before disable after kind number rfl hdisable
  have hbefore : ∀ event ∈ before, event.2.Calm := fun event hmem => hcalm event (by simp [hmem])
  have hdisabled : disable.2.Calm := hcalm disable (by simp)
  constructor
  · intro hruns
    rw [Machine.trace_append, emitted, List.flatMap_append, cancels_append]
    by_cases hmarked : ∃ map, ((commandExecutor config).run {} before).goals.map = some map ∧
        kind = .map ∧ map.cancel = true
    · obtain ⟨map, hmap, rfl, hcancel⟩ := hmarked
      obtain ⟨map', hmap', haccepted, rfl⟩ := hruns
      obtain rfl := Option.some.inj (hmap.symm.trans hmap')
      exact List.mem_append_left _ (mapAsked_run config hbefore map hmap haccepted hcancel)
    · refine List.mem_append_right _ ?_
      obtain ⟨call, answers, rfl, hcommand, hseed, hauthorized⟩ := hdisable
      have hcancels := cancels_motorDisable config call.request.commandId hdisabled.service hruns
        fun map hmap hkind => by
          by_contra hcancel
          exact hmarked ⟨map, hmap, hkind, by simpa using hcancel⟩
      simpa [commandExecutor, step_of_disables config answers hcommand hseed hauthorized]
        using hcancels
  · rintro hunanswered during response later rfl hresponse howed
    have hlater : ∀ event ∈ before ++ disable :: during, event.2.Calm :=
      fun event hmem => hcalm event (by simp at hmem ⊢; tauto)
    have hbarred : ((commandExecutor config).run {} (before ++ disable :: during)).goals.Barred
        ((commandExecutor config).run {} before).goals.nextRequest := by
      rw [Machine.run_append, Machine.run_cons]
      exact (commandExecutor config).invariant
        (fun s => s.goals.Barred ((commandExecutor config).run {} before).goals.nextRequest)
        (fun s event _ h => (step_acts config s event).keeps
          (P := Goals.Barred ((commandExecutor config).run {} before).goals.nextRequest)
          Act.barred h)
        (barred_of_disables config hdisable hdisabled (dated_goals_run config before))
        ((commandExecutor config).along_true _ during)
    exact cancels_of_barred config (hcalm response (by simp))
      (undockLedger_run config _) (mapLedger_run config hlater) hbarred
      (unanswered_lt (numbered_goals_run config before) hunanswered) hresponse howed

/-- A destination that waits for its response when the motors are disabled. -/
theorem cancelsBarred_of_pending : CancelsBarred fullRobot [readyFrame "go" .navigateToPose,
    readyFrame "off" .motorDisable, (.goalResponse 0 .accepted, allReady)] :=
  cancelsBarred_run fullRobot _ fun event hmem => by
    have hready : event.2 = allReady := by
      simp only [List.mem_cons, List.not_mem_nil, or_false] at hmem
      rcases hmem with rfl | rfl | rfl <;> rfl
    rw [hready]
    exact ⟨fun _ => rfl, fun _ => rfl, fun _ => rfl, rfl, rfl⟩

end Executor

end PatrolBot
