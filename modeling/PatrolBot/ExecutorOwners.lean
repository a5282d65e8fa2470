import Mathlib.Data.List.Nodup
import PatrolBot.Executor

/-!
# Who owns the robot's motion

The owner slots of the executor, the requests that are still to be answered and
the generations that decide what becomes of them, apart from everything else
the executor keeps.  `step_owners` says once what an event can do to them; the
results about owners use nothing else of the executor.
-/

namespace PatrolBot

/-- The owner slots and what the answers to come will be judged by. -/
structure Owners where
  active : Option Nat
  pending : Option NavPending
  undock : Bool
  map : Bool
  navRequests : List NavRequest
  context : Option NavigationContext
  navigationGeneration : Nat
  motorDisableGeneration : Nat

namespace Owners

/-- The cancel mark on the slot of a command. -/
def mark (o : Owners) (commandId : String) : Owners :=
  { o with pending := o.pending.map fun (pending : NavPending) =>
      if pending.commandId = commandId then { pending with cancel := true } else pending }

/-- The slot, when it holds the command. -/
def pendingFor (o : Owners) (commandId : String) : Option NavPending :=
  o.pending.filter fun pending => pending.commandId = commandId

/-- The slot after a response that clears it. -/
def clear (o : Owners) (commandId : String) : Owners :=
  if (o.pendingFor commandId).isSome then { o with pending := none } else o

/-- The request was answered. -/
def answer (o : Owners) (request : NavRequest) : Owners :=
  { o with navRequests := o.navRequests.erase request }

/-- An accepted request is still wanted: nothing has superseded it. -/
def Wanted (o : Owners) (request : NavRequest) : Prop :=
  request.generation = o.motorDisableGeneration ∧
    request.navigationGeneration = o.navigationGeneration ∧
    ¬ (request.context.isSome ∧ request.context ≠ o.context)

/-- A motor disable was handled. -/
def disable (o : Owners) : Owners :=
  { o with motorDisableGeneration := o.motorDisableGeneration + 1 }

/-- The base state reported a context. -/
def enter (o : Owners) (context : NavigationContext) : Owners :=
  { o with context := some context }

/-- The active goal ended. -/
def finish (o : Owners) : Owners :=
  { o with active := none }

/-- An accepted request becomes the active goal. -/
def adopt (o : Owners) (request : NavRequest) : Owners :=
  { o.clear request.commandId with active := some request.request }

/-- The slots after a destination was sent. -/
def send (o : Owners) (commandId : String) (request : Nat) : Owners :=
  { o with
    navigationGeneration := o.navigationGeneration + 1
    pending := some { commandId := commandId, request := request } }

/-- The request the callback of `send` will answer. -/
def requestOf (o : Owners) (commandId : String) (request : Nat) : NavRequest :=
  ⟨request, commandId, o.motorDisableGeneration, o.context, o.navigationGeneration + 1⟩

/-- A request joins those to be answered. -/
def owe (o : Owners) (request : NavRequest) : Owners :=
  { o with navRequests := request :: o.navRequests }

end Owners

namespace Executor

variable (config : ExecutorConfig) (answers : ClientAnswers)

def owners (s : Executor) : Owners where
  active := s.active.map (·.request)
  pending := s.navPending
  undock := s.undockActive.isSome
  map := s.mapActive.isSome
  navRequests := s.navRequests
  context := s.navigationContext
  navigationGeneration := s.navigationGeneration
  motorDisableGeneration := s.motorDisableGeneration

/-- The numbers of the destinations sent. -/
def sent (emits : List ExecutorEmit) : List Nat :=
  emits.filterMap fun emit => match emit with
    | .sendNavigation request _ _ _ => some request
    | _ => none

@[simp] theorem sent_nil : sent [] = [] := rfl

@[simp] theorem sent_sendNavigation (request : Nat) (x y yaw : PyFloat)
    (emits : List ExecutorEmit) :
    sent (.sendNavigation request x y yaw :: emits) = request :: sent emits := rfl

@[simp] theorem sent_raised (emits : List ExecutorEmit) : sent (.raised :: emits) = sent emits :=
  rfl

@[simp] theorem sent_append (emits more : List ExecutorEmit) :
    sent (emits ++ more) = sent emits ++ sent more := List.filterMap_append

@[simp] theorem andThen_fst (result : Executor × List ExecutorEmit)
    (method : Executor → Executor × List ExecutorEmit) :
    (andThen result method).1 = (method result.1).1 := rfl

@[simp] theorem andThen_snd (result : Executor × List ExecutorEmit)
    (method : Executor → Executor × List ExecutorEmit) :
    (andThen result method).2 = result.2 ++ (method result.1).2 := rfl

/-- A method leaves the owners `o`, and numbers every destination it sends by a
    number no request before it had. -/
structure Leaves (s : Executor) (o : Owners) (result : Executor × List ExecutorEmit) : Prop where
  owners : result.1.owners = o
  next : s.nextRequest ≤ result.1.nextRequest
  sent : ∀ request ∈ sent result.2, s.nextRequest ≤ request ∧ request < result.1.nextRequest

theorem Leaves.andThen {s : Executor} {o o' : Owners} {result : Executor × List ExecutorEmit}
    {method : Executor → Executor × List ExecutorEmit} (first : Leaves s o result)
    (second : Leaves result.1 o' (method result.1)) : Leaves s o' (andThen result method) := by
  refine ⟨second.owners, first.next.trans second.next, fun request hrequest => ?_⟩
  simp only [andThen_snd, sent_append, List.mem_append] at hrequest
  rcases hrequest with hrequest | hrequest
  · have h := first.sent request hrequest
    exact ⟨h.1, h.2.trans_le second.next⟩
  · have h := second.sent request hrequest
    exact ⟨first.next.trans h.1, h.2⟩

/-- A step on a state with the same owners and numbering. -/
theorem Leaves.of_same {s t : Executor} {o : Owners} {result : Executor × List ExecutorEmit}
    (h : Leaves t o result) (hnext : t.nextRequest = s.nextRequest) : Leaves s o result :=
  ⟨h.owners, hnext ▸ h.next, hnext ▸ h.sent⟩

/-- Emits that send no destination. -/
theorem leaves_of_silent {s : Executor} {o : Owners} {result : Executor × List ExecutorEmit}
    (howners : result.1.owners = o) (hnext : s.nextRequest ≤ result.1.nextRequest)
    (hsent : sent result.2 = []) : Leaves s o result :=
  ⟨howners, hnext, by simp [hsent]⟩

/-- The owners are left as they were. -/
abbrev Keeps (s : Executor) (result : Executor × List ExecutorEmit) : Prop :=
  Leaves s s.owners result

theorem keeps_of_silent {s : Executor} {result : Executor × List ExecutorEmit}
    (howners : result.1.owners = s.owners) (hnext : result.1.nextRequest = s.nextRequest)
    (hsent : sent result.2 = []) : Keeps s result :=
  leaves_of_silent howners hnext.ge hsent

theorem Leaves.then_keeps {s : Executor} {o : Owners} {result : Executor × List ExecutorEmit}
    {method : Executor → Executor × List ExecutorEmit} (first : Leaves s o result)
    (second : Keeps result.1 (method result.1)) : Leaves s o (Executor.andThen result method) :=
  first.andThen ⟨second.owners.trans first.owners, second.next, second.sent⟩

theorem Leaves.of_owners {s t : Executor} {result : Executor × List ExecutorEmit}
    (h : Keeps t result) (howners : t.owners = s.owners) (hnext : t.nextRequest = s.nextRequest) :
    Keeps s result :=
  ⟨h.owners.trans howners, hnext ▸ h.next, hnext ▸ h.sent⟩

/-! ### Methods that leave the owners alone -/

theorem keeps_refl (s : Executor) : Keeps s (s, []) := keeps_of_silent rfl rfl rfl

theorem keeps_ack (s : Executor) (commandId : String) (accepted : Bool)
    (reason : Option String) : Keeps s (s, [.ack commandId accepted reason]) :=
  keeps_of_silent rfl rfl rfl

theorem keeps_clearNavigationPath (s : Executor) : Keeps s s.clearNavigationPath := by
  unfold clearNavigationPath
  split
  · exact keeps_refl s
  · rename_i active hactive
    exact keeps_of_silent (by simp [owners, hactive]) rfl rfl

@[simp] theorem nextRequest_clearNavigationPath (s : Executor) :
    s.clearNavigationPath.1.nextRequest = s.nextRequest := by
  unfold clearNavigationPath
  split <;> rfl

@[simp] theorem owners_clearNavigationPath (s : Executor) :
    s.clearNavigationPath.1.owners = s.owners := (keeps_clearNavigationPath s).owners

@[simp] theorem sent_clearNavigationPath (s : Executor) :
    Executor.sent s.clearNavigationPath.2 = [] := by
  unfold clearNavigationPath
  split <;> rfl

theorem keeps_pollNavigationPath (s : Executor) : Keeps s (s.pollNavigationPath answers) := by
  have hask : ∀ (s : Executor) (active : ActiveGoal), Keeps s
      (if active.pathBlocked then (s, [])
        else if answers.pathReady = false then
          if active.pathValid then s.clearNavigationPath else (s, [])
        else
          let query : PathQuery := ⟨s.nextRequest, active.request⟩
          ({ s with
              nextRequest := s.nextRequest + 1, pathSent := answers.now,
              pathFuture := some (query, false), pathQueries := query :: s.pathQueries },
            [.askPath active.request])) := by
    intro s active
    split
    · exact keeps_refl s
    · split
      · split
        · exact keeps_clearNavigationPath s
        · exact keeps_refl s
      · exact leaves_of_silent rfl (Nat.le_succ _) rfl
  unfold pollNavigationPath
  simp only
  split
  · split
    · exact keeps_refl s
    · rename_i query _ _
      have hcleared := keeps_clearNavigationPath
        { s with pathFuture := none, pathQueries := s.pathQueries.erase query }
      refine (hcleared.then_keeps ?_).of_same rfl
      split
      · exact keeps_refl _
      · exact hask _ _
  · split
    · exact keeps_refl s
    · exact hask s _

theorem keeps_onNavigationPath (s : Executor) (query : PathQuery) (reply : PathReply) :
    Keeps s (s.onNavigationPath config query reply) := by
  unfold onNavigationPath
  split
  · exact keeps_refl s
  · rename_i active hactive
    split
    · exact keeps_refl s
    · split
      · exact keeps_clearNavigationPath s
      · exact keeps_clearNavigationPath s
      · split
        · exact keeps_refl s
        · simp only
          split
          · exact keeps_of_silent (by simp [owners, hactive]) rfl rfl
          · exact keeps_of_silent (by simp [owners, hactive]) rfl rfl

theorem keeps_onNavigationCancelResponse (s : Executor) (request : Nat)
    (response : Except String CancelResponse) :
    Keeps s (s.onNavigationCancelResponse request response) := by
  unfold onNavigationCancelResponse
  split
  · exact keeps_refl s
  · rename_i active hactive
    split
    · exact keeps_refl s
    · simp only
      split
      · split
        · exact keeps_of_silent (by simp [owners, hactive]) rfl rfl
        · exact keeps_refl s
      · exact keeps_of_silent (by simp [owners, hactive]) rfl rfl

theorem keeps_onFeedback (s : Executor) (commandId : String) (request : Nat)
    (distance : Option PyFloat) : Keeps s (s.onFeedback answers commandId request distance) := by
  unfold onFeedback
  split
  · exact keeps_refl s
  · split
    · exact keeps_refl s
    · split
      · exact keeps_refl s
      · exact keeps_of_silent rfl rfl rfl

theorem owners_of_claimStop {s claimed : Executor} {commandId : String}
    (h : s.claimStop commandId = some claimed) :
    claimed.owners = s.owners ∧ claimed.nextRequest = s.nextRequest := by
  unfold claimStop at h
  split at h
  · rename_i active undock hactive
    split at h
    · obtain rfl := Option.some.inj h
      exact ⟨by simp [owners, hactive], rfl⟩
    · obtain ⟨undock', hundock, h⟩ := Option.bind_eq_some_iff.mp h
      split at h
      · obtain rfl := Option.some.inj h
        exact ⟨by simp [owners, hundock], rfl⟩
      · simp at h
  · rename_i undock hactive hundock
    split at h
    · obtain rfl := Option.some.inj h
      exact ⟨by simp [owners, hundock], rfl⟩
    · simp at h
  · simp at h

theorem keeps_failStop (s : Executor) (commandId detail : String) :
    Keeps s (s.failStop commandId detail) := by
  unfold failStop
  split
  · exact keeps_refl s
  · rename_i claimed hclaimed
    obtain ⟨howners, hnext⟩ := owners_of_claimStop hclaimed
    exact keeps_of_silent howners hnext rfl

theorem keeps_onCancelResponse (s : Executor) (commandId : String)
    (response : Except String CancelResponse) :
    Keeps s (s.onCancelResponse commandId response) := by
  unfold onCancelResponse
  split
  · exact keeps_failStop s _ _
  · split
    · exact keeps_refl s
    · split
      · rename_i claimed hclaimed
        obtain ⟨howners, hnext⟩ := owners_of_claimStop hclaimed
        exact keeps_of_silent howners hnext rfl
      · exact keeps_refl s
    · exact keeps_failStop s _ _

theorem keeps_askToStop (s : Executor) (commandId : String) (kind : ActionKind)
    {cancel : ExecutorEmit} (hcancel : sent [cancel] = []) :
    Keeps s (s.askToStop answers commandId kind cancel) := by
  unfold askToStop
  split
  · exact Leaves.then_keeps (keeps_of_silent rfl rfl hcancel) (keeps_failStop _ _ _)
  · exact keeps_of_silent rfl rfl hcancel

theorem keeps_stop (s : Executor) (commandId : String) :
    Keeps s (s.stop answers commandId) := by
  unfold stop
  refine Leaves.then_keeps (keeps_ack s _ _ _) ?_
  simp only
  split
  · rename_i undock hundock
    split
    · exact keeps_of_silent (by simp [owners, hundock]) rfl rfl
    · exact (keeps_askToStop answers _ commandId .undock rfl).of_owners
        (by simp [owners, hundock]) rfl
  · rename_i active hundock hactive
    have hsame : Keeps s (clearNavigationPath { s with active := some { active with
        cancelRequested := true, pathBlocked := true,
        stopCommandIds := active.stopCommandIds ++ [commandId] } }) :=
      (keeps_clearNavigationPath _).of_owners (by simp [owners, hactive]) rfl
    refine hsame.then_keeps ?_
    split
    · exact keeps_refl _
    · exact keeps_askToStop answers _ _ _ rfl
  · exact keeps_of_silent rfl rfl rfl

theorem keeps_onUndockFeedback (s : Executor) (commandId state hardwarePhase : String) :
    Keeps s (s.onUndockFeedback answers commandId state hardwarePhase) := by
  unfold onUndockFeedback
  split
  · exact keeps_refl s
  · split
    · exact keeps_refl s
    · split
      · exact keeps_refl s
      · exact keeps_of_silent rfl rfl rfl

theorem keeps_cancelAccepted (s : Executor) (undock : ActiveUndock) :
    Keeps s (s.cancelAccepted answers undock) := by
  have hfold : ∀ (stops : List String) (result : Executor × List ExecutorEmit),
      Keeps s result → Keeps s (stops.foldl (fun result stop => Executor.andThen result fun s =>
        s.failStop stop s!"The robot could not be asked to stop: {answers.error}.") result) := by
    intro stops
    induction stops with
    | nil => exact fun _ h => h
    | cons stop stops ih => exact fun _ h => ih _ (h.then_keeps (keeps_failStop _ _ _))
  unfold cancelAccepted
  split
  · exact hfold _ _ (keeps_of_silent rfl rfl rfl)
  · exact keeps_of_silent rfl rfl rfl

theorem keeps_checkMapConnection (s : Executor) (cancel : Bool) :
    Keeps s (s.checkMapConnection answers cancel) := by
  unfold checkMapConnection
  split
  · exact keeps_refl s
  · rename_i map hmap
    split
    · simp only
      split
      · exact keeps_of_silent (by simp [owners, hmap]) rfl rfl
      · split
        · exact keeps_of_silent (by simp [owners, hmap]) rfl rfl
        · exact keeps_of_silent (by simp [owners, hmap]) rfl rfl
    · exact keeps_refl s

theorem keeps_onMapFeedback (s : Executor) (requestId stage : String) :
    Keeps s (s.onMapFeedback requestId stage) := by
  unfold onMapFeedback
  split
  · exact keeps_refl s
  · split
    · exact keeps_of_silent rfl rfl rfl
    · exact keeps_refl s

theorem keeps_callDockService (s : Executor) (commandId : String) (service : DockService) :
    Keeps s (s.callDockService config answers commandId service) := by
  unfold callDockService
  split
  · exact keeps_of_silent rfl rfl rfl
  · split
    · exact keeps_ack s _ _ _
    · split
      · exact keeps_ack s _ _ _
      · split
        · exact keeps_of_silent rfl rfl rfl
        · exact keeps_of_silent rfl rfl rfl

theorem keeps_onDockServiceResult (s : Executor) (service : DockService) (commandId : String)
    (response : Except String ServiceResponse) :
    Keeps s (s.onDockServiceResult service commandId response) := by
  unfold onDockServiceResult
  split
  · exact keeps_ack s _ _ _
  · split
    · exact keeps_ack s _ _ _
    · split
      · exact keeps_ack s _ _ _
      · split
        · exact keeps_of_silent rfl rfl rfl
        · exact keeps_of_silent rfl rfl rfl

theorem keeps_motorEnable (s : Executor) (commandId : String) :
    Keeps s (s.motorEnable config answers commandId) := by
  unfold motorEnable
  split
  · exact keeps_ack s _ _ _
  · exact keeps_callDockService config answers s _ _

theorem keeps_cancelGoals (s : Executor) : Keeps s s.cancelGoals := by
  refine keeps_of_silent ?_ rfl ?_
  · cases hactive : s.active <;> cases hundock : s.undockActive <;>
      simp [cancelGoals, owners, hactive, hundock]
  · cases hactive : s.active <;> cases hundock : s.undockActive <;>
      simp [cancelGoals, hactive, hundock, sent]

theorem keeps_cancelMapLogged (s : Executor) : Keeps s (s.cancelMapLogged answers) := by
  have h := keeps_checkMapConnection answers s true
  refine ⟨h.owners, h.next, fun request hrequest => h.sent request ?_⟩
  simp only [cancelMapLogged, sent, List.mem_filterMap, List.mem_filter] at hrequest ⊢
  obtain ⟨emit, ⟨hmem, -⟩, heq⟩ := hrequest
  exact ⟨emit, hmem, heq⟩

theorem keeps_setLidarPower (s : Executor) (commandId : String) (authorized enabled : Json)
    (base : Option BaseState) (receiptAge : Option PyFloat) :
    Keeps s (s.setLidarPower config answers commandId authorized enabled base receiptAge) := by
  unfold setLidarPower
  split
  · split
    · exact keeps_ack s _ _ _
    · split
      · exact keeps_ack s _ _ _
      · split
        · exact keeps_ack s _ _ _
        · simp only
          split
          · exact keeps_of_silent rfl rfl rfl
          · exact keeps_of_silent rfl rfl rfl
  · exact keeps_ack s _ _ _

theorem keeps_onLidarResult (s : Executor) (commandId : String)
    (response : Except String LidarResponse) :
    Keeps s (s.onLidarResult answers commandId response) := by
  unfold onLidarResult
  split
  · exact keeps_refl s
  · split
    · exact keeps_of_silent rfl rfl rfl
    · split
      · exact keeps_of_silent rfl rfl rfl
      · simp only
        split
        · exact keeps_of_silent rfl rfl rfl
        · split
          · exact keeps_of_silent rfl rfl rfl
          · exact keeps_of_silent rfl rfl rfl

theorem keeps_dockReset (s : Executor) (call : HandleCall) :
    Keeps s (s.dockReset config answers call) := by
  unfold dockReset
  simp only
  split
  · exact keeps_ack s _ _ _
  · split
    · exact keeps_ack s _ _ _
    · exact keeps_callDockService config answers s _ _

theorem keeps_stopMap (s : Executor) (commandId : String) :
    Keeps s (s.stopMap answers commandId) := by
  have h := keeps_checkMapConnection answers s true
  unfold stopMap
  simp only
  split
  · exact h
  · refine ⟨h.owners, h.next, fun request hrequest => h.sent request ?_⟩
    simpa [sent] using hrequest

/-! ### Methods that move an owner -/

@[simp] theorem owners_markPending (s : Executor) (commandId : String) :
    (s.markPending commandId).owners = s.owners.mark commandId := rfl

/-- A cancel of the undock that runs is no cancel of a destination. -/
theorem keeps_cancelNavigation_of_undock {s : Executor} {undock : ActiveUndock}
    {commandId : String} (hundock : s.undockActive = some undock)
    (hid : undock.commandId = commandId) : Keeps s (s.cancelNavigation answers commandId) := by
  unfold cancelNavigation
  simp only [hundock, hid, if_true]
  split
  · exact keeps_refl s
  · split
    · exact keeps_of_silent (by simp [owners, hundock]) rfl rfl
    · split
      · exact keeps_of_silent (by simp [owners, hundock]) rfl rfl
      · exact keeps_of_silent (by simp [owners, hundock]) rfl rfl

/-- The navigation half of `_cancel_navigation`. -/
theorem leaves_cancelMarked (s : Executor) (commandId : String) :
    Leaves s (s.owners.mark commandId) (match (s.markPending commandId).active with
      | none => (s.markPending commandId, [])
      | some active =>
        if active.commandId ≠ commandId ∨ active.cancelRequested then
          (s.markPending commandId, [])
        else
          let cleared := clearNavigationPath { s.markPending commandId with
            active := some { active with
              cancelRequested := true, cancelPending := true, pathBlocked := true } }
          let told : List ExecutorEmit := cleared.2 ++ [.progress commandId "stopping"
            (some "Waiting for navigation to stop.") false none, .cancelNavigation active.request]
          if answers.cancelRaises .navigation then
            Executor.andThen (cleared.1, told)
              fun s => s.onNavigationCancelResponse active.request (.error answers.error)
          else
            ({ cleared.1 with
                cancelReplies := .navigation active.request :: cleared.1.cancelReplies },
              told)) := by
  split
  · exact leaves_of_silent rfl le_rfl rfl
  · rename_i active hactive
    split
    · exact leaves_of_silent rfl le_rfl rfl
    · have hcleared : Leaves s (s.owners.mark commandId) (clearNavigationPath
          { s.markPending commandId with active := some { active with
            cancelRequested := true, cancelPending := true, pathBlocked := true } }) := by
        have h := (keeps_clearNavigationPath { s.markPending commandId with
          active := some { active with
            cancelRequested := true, cancelPending := true, pathBlocked := true } })
        exact ⟨h.owners.trans (by
          rw [← owners_markPending]
          simp [owners, hactive]), h.next, h.sent⟩
      simp only
      split
      · refine Leaves.then_keeps ⟨hcleared.owners, hcleared.next, ?_⟩
          (keeps_onNavigationCancelResponse _ _ _)
        simpa [sent] using hcleared.sent
      · refine ⟨hcleared.owners, hcleared.next, ?_⟩
        simpa [sent] using hcleared.sent

theorem leaves_cancelNavigation (s : Executor) (commandId : String) :
    Keeps s (s.cancelNavigation answers commandId) ∨
      Leaves s (s.owners.mark commandId) (s.cancelNavigation answers commandId) := by
  cases hundock : s.undockActive with
  | none =>
    right
    unfold cancelNavigation
    simp only [hundock]
    exact leaves_cancelMarked answers s commandId
  | some undock =>
    by_cases hid : undock.commandId = commandId
    · exact .inl (keeps_cancelNavigation_of_undock answers hundock hid)
    · right
      unfold cancelNavigation
      simp only [hundock, hid, if_false]
      exact leaves_cancelMarked answers s commandId

theorem keeps_failUndock (s : Executor) (detail : String) :
    Keeps s (s.failUndock answers detail) := by
  unfold failUndock
  split
  · exact keeps_refl s
  · rename_i undock hundock
    split
    · exact keeps_refl s
    · have hcancel := keeps_cancelNavigation_of_undock answers
        (s := { s with undockActive := some { undock with uncertain := true } }) rfl rfl
      refine Leaves.then_keeps (hcancel.of_owners (by simp [owners, hundock]) rfl) ?_
      exact keeps_of_silent rfl rfl rfl

theorem keeps_checkUndockHealth (s : Executor) :
    Keeps s (s.checkUndockHealth config answers) := by
  unfold checkUndockHealth
  split
  · exact keeps_of_silent rfl rfl rfl
  · split
    · simp only
      split
      · exact (keeps_failUndock answers _ _).of_owners rfl rfl
      · exact keeps_of_silent rfl rfl rfl
    · simp only
      split
      · exact (keeps_failUndock answers _ _).of_owners rfl rfl
      · exact keeps_of_silent rfl rfl rfl

theorem leaves_motorDisable (s : Executor) (commandId : String) :
    Leaves s s.owners.disable (s.motorDisable config answers commandId) := by
  have hblocked : Keeps s (clearNavigationPath { s with
      active := s.active.map fun active => { active with pathBlocked := true } }) :=
    (keeps_clearNavigationPath _).of_owners (by
      cases hactive : s.active <;> simp [owners, hactive]) rfl
  unfold motorDisable
  refine hblocked.andThen ?_
  have hgeneration : ∀ t : Executor, t.owners = s.owners →
      Leaves t s.owners.disable (callDockService config answers
        { t with motorDisableGeneration := t.motorDisableGeneration + 1 } commandId
        .motorDisable) := by
    intro t ht
    have h := keeps_callDockService config answers
      { t with motorDisableGeneration := t.motorDisableGeneration + 1 } commandId .motorDisable
    exact ⟨h.owners.trans (by rw [← ht]; rfl), h.next, h.sent⟩
  simp only
  split
  · exact hgeneration _ hblocked.owners
  · exact ((hgeneration _ hblocked.owners).then_keeps (keeps_cancelMapLogged _ _)).then_keeps
      (keeps_cancelGoals _)

theorem leaves_updateNavigationContext (s : Executor) (base : BaseState) :
    Leaves s (s.owners.enter base.navigationContext) (s.updateNavigationContext base) := by
  unfold updateNavigationContext
  split
  · rename_i hsame
    exact leaves_of_silent (by simp [owners, Owners.enter, hsame]) le_rfl rfl
  · simp only
    split
    · exact leaves_of_silent rfl le_rfl rfl
    · rename_i active hactive
      have h := keeps_clearNavigationPath { s with
        navigationContext := some base.navigationContext
        active := some { active with pathBlocked := true } }
      exact ⟨h.owners.trans (by simp [owners, Owners.enter, hactive]), h.next, h.sent⟩

theorem leaves_onResult (s : Executor) (commandId : String)
    (response : Except String NavigationResult) :
    Keeps s (s.onResult commandId response) ∨
      Leaves s s.owners.finish (s.onResult commandId response) := by
  unfold onResult
  split
  · exact .inl (keeps_refl s)
  · split
    · exact .inl (keeps_refl s)
    · right
      have h := keeps_clearNavigationPath s
      refine ⟨?_, h.next, ?_⟩
      · rw [← h.owners]
        rfl
      · intro request hrequest
        refine h.sent request ?_
        rw [sent_append, List.mem_append] at hrequest
        refine hrequest.resolve_right ?_
        simp only [sent, List.filterMap_cons, List.filterMap_map]
        cases response <;> simp

/-! ### What a step does to the owners -/

/-- The frame starts an undock: it passes every gate and the goal is sent. -/
structure StartsUndock (s : Executor) (call : HandleCall) : Prop where
  command : call.request.command = .undock
  seed : invalidSeed call.request = false
  gates : s.refusal answers call = none
  idle : s.undockRefusal config answers call.request.operatorAuthorized.truthy = none
  sends : answers.sendRaises .undock = false

/-- The frame starts a map localization: it passes every gate. -/
structure StartsMap (s : Executor) (call : HandleCall) : Prop where
  command : call.request.command = .setInitialPose
  seed : invalidSeed call.request = false
  gates : s.refusal answers call = none
  pose : ∃ goal, call.request.goal = some goal ∧ goal.pose.isSome
  idle : s.setInitialPoseRefused answers call.request.operatorAuthorized.truthy = false

/-- What an event can do to the owners, and under which conditions. -/
inductive OwnerStep (s : Executor) :
    ExecutorEvent × ClientAnswers → List ExecutorEmit → Owners → Prop
  | keep (event emits) : OwnerStep s event emits s.owners
  | mark (event emits commandId) : OwnerStep s event emits (s.owners.mark commandId)
  | disable (event emits) : OwnerStep s event emits s.owners.disable
  | enter (event emits context) : OwnerStep s event emits (s.owners.enter context)
  | finish (event emits) : OwnerStep s event emits s.owners.finish
  | send (call answers emits) (undock : s.undockActive = none) (map : s.mapActive = none)
      (sends : answers.sendRaises .navigation = false) (number : s.nextRequest ∈ sent emits) :
      OwnerStep s (.handle call, answers) emits
        ((s.owners.send call.request.commandId s.nextRequest).owe
          (s.owners.requestOf call.request.commandId s.nextRequest))
  | sendRaised (call answers emits) (undock : s.undockActive = none) (map : s.mapActive = none)
      (raises : answers.sendRaises .navigation = true) (number : s.nextRequest ∈ sent emits) :
      OwnerStep s (.handle call, answers) emits
        (s.owners.send call.request.commandId s.nextRequest)
  | drop (request answers response emits) (owed : request ∈ s.navRequests)
      (unwanted : response = .accepted → ¬ s.owners.Wanted request)
      (kept : response ≠ .declined) :
      OwnerStep s (.goalResponse request.request response, answers) emits
        (s.owners.answer request)
  | decline (request answers emits) (owed : request ∈ s.navRequests) :
      OwnerStep s (.goalResponse request.request .declined, answers) emits
        ((s.owners.answer request).clear request.commandId)
  | adopt (request answers emits) (owed : request ∈ s.navRequests)
      (wanted : s.owners.Wanted request)
      (cancels : s.undockActive = none → answers.resultRaises .navigation = false →
        (s.owners.pendingFor request.commandId).any (·.cancel) = true →
        .cancelNavigation request.request ∈ emits) :
      OwnerStep s (.goalResponse request.request .accepted, answers) emits
        ((s.owners.answer request).adopt request)
  | undock (call answers emits) (starts : StartsUndock config answers s call) :
      OwnerStep s (.handle call, answers) emits { s.owners with undock := true }
  | endUndock (event emits) : OwnerStep s event emits { s.owners with undock := false }
  | map (call answers emits) (starts : StartsMap answers s call) :
      OwnerStep s (.handle call, answers) emits { s.owners with map := true }
  | endMap (event emits) : OwnerStep s event emits { s.owners with map := false }

/-- A result together with what its event did to the owners. -/
def Moves (s : Executor) (event : ExecutorEvent × ClientAnswers)
    (result : Executor × List ExecutorEmit) : Prop :=
  ∃ o, OwnerStep config s event result.2 o ∧ Leaves s o result

theorem Leaves.moves {s : Executor} {result : Executor × List ExecutorEmit} {o : Owners}
    (h : Leaves s o result) {event : ExecutorEvent × ClientAnswers}
    (hstep : OwnerStep config s event result.2 o) : Moves config s event result :=
  ⟨o, hstep, h⟩

theorem Leaves.moves_keep {s : Executor} {result : Executor × List ExecutorEmit}
    (h : Keeps s result) (event : ExecutorEvent × ClientAnswers) : Moves config s event result :=
  ⟨_, .keep _ _, h⟩

theorem moves_of_keeps {s t : Executor} {event : ExecutorEvent × ClientAnswers}
    {result : Executor × List ExecutorEmit} (h : Keeps t result) (howners : t.owners = s.owners)
    (hnext : t.nextRequest = s.nextRequest) : Moves config s event result :=
  (h.of_owners howners hnext).moves_keep config event

theorem moves_of_mark {s : Executor} {result : Executor × List ExecutorEmit}
    (commandId : String) (h : Keeps s result ∨ Leaves s (s.owners.mark commandId) result)
    (event : ExecutorEvent × ClientAnswers) : Moves config s event result := by
  rcases h with h | h
  · exact h.moves_keep config event
  · exact h.moves config (.mark _ _ _)

theorem moves_navigate {s : Executor} (call : HandleCall) (goal : Goal)
    (hmap : s.mapActive = none) :
    Moves config s (.handle call, answers)
      (s.navigate answers call.request.commandId goal call.currentYaw) := by
  unfold navigate
  split
  · exact (keeps_ack s _ _ _).moves_keep config _
  · rename_i hundock
    have hidle : s.undockActive = none := by simpa using hundock
    split
    · exact (keeps_ack s _ _ _).moves_keep config _
    · split
      · exact (keeps_of_silent rfl rfl rfl : Keeps s (s, [.raised])).moves_keep config _
      · rename_i x y yaw _
        by_cases hraises : answers.sendRaises .navigation = true
        · refine ⟨_, .sendRaised call answers _ hidle hmap hraises (by simp [hraises]), ?_, ?_, ?_⟩
          · simp only [hraises, andThen_fst, if_true]
            rw [← owners_clearNavigationPath s, ← nextRequest_clearNavigationPath s]
            rfl
          · simp [hraises]
          · simp [hraises]
        · rw [Bool.not_eq_true] at hraises
          refine ⟨_, .send call answers _ hidle hmap hraises (by simp [hraises]), ?_, ?_, ?_⟩
          · simp only [hraises, andThen_fst, Bool.false_eq_true, if_false]
            rw [← owners_clearNavigationPath s, ← nextRequest_clearNavigationPath s]
            rfl
          · simp [hraises]
          · simp [hraises]

@[simp] theorem active_clearNavigationPath (s : Executor) :
    s.clearNavigationPath.1.active =
      s.active.map fun active => { active with pathValid := false } := by
  unfold clearNavigationPath
  split
  · rename_i hactive
    simp [hactive]
  · rename_i active hactive
    simp [hactive]

@[simp] theorem undockActive_clearNavigationPath (s : Executor) :
    s.clearNavigationPath.1.undockActive = s.undockActive := by
  unfold clearNavigationPath
  split <;> rfl

/-- With no undock in the way, the cancel of a command reaches its goal. -/
theorem cancel_mem_cancelNavigation {s : Executor} (active : ActiveGoal)
    (hundock : s.undockActive = none) (hactive : s.active = some active)
    (hfresh : active.cancelRequested = false) :
    .cancelNavigation active.request ∈
      (s.cancelNavigation answers active.commandId).2 := by
  unfold cancelNavigation
  have hmarked : (s.markPending active.commandId).active = some active := hactive
  simp only [hundock, hmarked, hfresh, ne_eq, not_true_eq_false, Bool.false_eq_true, or_self,
    if_false]
  split <;> simp

@[simp] theorem navPending_clearNavigationPath (s : Executor) :
    s.clearNavigationPath.1.navPending = s.navPending := by
  unfold clearNavigationPath
  split <;> rfl

/-- With an empty slot a cancel marks nothing. -/
theorem keeps_cancelNavigation_of_empty {s : Executor} (commandId : String)
    (h : s.navPending = none) : Keeps s (s.cancelNavigation answers commandId) := by
  have hmark : s.owners.mark commandId = s.owners := by
    simp [Owners.mark, owners, h]
  rcases leaves_cancelNavigation answers s commandId with hkeeps | hmarks
  · exact hkeeps
  · rw [hmark] at hmarks
    exact hmarks

theorem owners_clearPending (s : Executor) (commandId : String) :
    (s.clearPending commandId).owners = s.owners.clear commandId := by
  unfold clearPending Owners.clear
  have hsame : s.owners.pendingFor commandId = s.pendingFor commandId := rfl
  rw [hsame]
  split <;> rfl

theorem keeps_dropGoal (s : Executor) (request : NavRequest) (reason : String) :
    Keeps s (s.dropGoal answers request reason) := by
  unfold dropGoal
  split <;> exact keeps_of_silent rfl rfl rfl

theorem sent_replaceActive (s : Executor) : sent s.replaceActive = [] := by
  unfold replaceActive
  split
  · rfl
  · simp [sent, List.filterMap_map]

theorem leaves_adoptGoal (s : Executor) (request : NavRequest) :
    Leaves s (s.owners.adopt request) (s.adoptGoal answers request) := by
  have hadopted : Leaves s (s.owners.adopt request)
      (({ s.clearPending request.commandId with
          active := some { commandId := request.commandId, request := request.request,
                           navigationContext := s.navigationContext }
          lastProgress := 0 } : Executor),
        s.replaceActive ++ [.ack request.commandId true none]) := by
    refine leaves_of_silent ?_ ?_ ?_
    · rw [Owners.adopt, ← owners_clearPending]
      rfl
    · unfold clearPending
      split <;> exact le_rfl
    · simp only [sent_append, sent_replaceActive]
      rfl
  unfold adoptGoal
  refine hadopted.then_keeps ?_
  refine Leaves.then_keeps (keeps_clearNavigationPath _) ?_
  split
  · exact keeps_of_silent rfl rfl rfl
  · simp only
    split
    · rename_i hmarked
      -- The mark was in the slot that the acceptance cleared.
      have hslot : (s.clearPending request.commandId).navPending = none := by
        unfold clearPending
        cases hpending : s.pendingFor request.commandId with
        | none => simp [hpending] at hmarked
        | some pending => simp
      refine (keeps_cancelNavigation_of_empty answers request.commandId ?_).of_owners rfl rfl
      simpa using hslot
    · exact keeps_of_silent rfl rfl rfl

/-- An accepted request with the cancel mark is cancelled as it is adopted. -/
theorem cancel_mem_adoptGoal {s : Executor} {request : NavRequest}
    (hundock : s.undockActive = none) (hresult : answers.resultRaises .navigation = false)
    (hmarked : (s.pendingFor request.commandId).any (·.cancel) = true) :
    .cancelNavigation request.request ∈ (s.adoptGoal answers request).2 := by
  have hidle : (s.clearPending request.commandId).undockActive = none := by
    unfold clearPending
    split <;> exact hundock
  simp only [adoptGoal, andThen_snd, hresult, hmarked, Bool.false_eq_true, if_false, if_true]
  refine List.mem_append_right _ (List.mem_append_right _ ?_)
  exact cancel_mem_cancelNavigation answers
    { commandId := request.commandId
      request := request.request
      navigationContext := s.navigationContext }
    (by simpa using hidle) (by simp) rfl

theorem moves_onGoalEvent (s : Executor) (number : Nat) (response : GoalResponse) :
    Moves config s (.goalResponse number response, answers)
      (s.onGoalEvent answers number response) := by
  unfold onGoalEvent
  split
  · exact (keeps_refl s).moves_keep config _
  · rename_i request hfind
    have howed : request ∈ s.navRequests := List.mem_of_find?_eq_some hfind
    obtain rfl : request.request = number := by simpa using List.find?_some hfind
    -- Every branch starts from the state in which the request is answered.
    have hanswered : ({ s with navRequests := s.navRequests.erase request } : Executor).owners =
        s.owners.answer request := rfl
    have hdrop : ∀ reason, ¬ s.owners.Wanted request →
        Moves config s (.goalResponse request.request .accepted, answers)
          (dropGoal answers { s with navRequests := s.navRequests.erase request } request
            reason) := by
      intro reason hunwanted
      have h := keeps_dropGoal answers { s with navRequests := s.navRequests.erase request }
        request reason
      exact ⟨_, .drop request answers _ _ howed (fun _ => hunwanted) (by simp),
        h.owners, h.next, h.sent⟩
    cases response with
    | raised error =>
      exact ⟨_, .drop request answers _ _ howed (by simp) (by simp),
        leaves_of_silent rfl le_rfl rfl⟩
    | declined =>
      refine ⟨_, .decline request answers _ howed, leaves_of_silent ?_ ?_ rfl⟩
      · rw [← hanswered]
        exact owners_clearPending _ _
      · simp only [onGoalResponse, clearPending]
        split <;> exact le_rfl
    | accepted =>
      unfold onGoalResponse
      simp only
      split
      · rename_i hgeneration
        exact hdrop _ fun hwanted => hgeneration hwanted.1
      · rename_i hgeneration
        split
        · rename_i hnavigation
          exact hdrop _ fun hwanted => hnavigation hwanted.2.1
        · rename_i hnavigation
          split
          · rename_i hcontext
            exact hdrop _ fun hwanted => hwanted.2.2 hcontext
          · rename_i hcontext
            refine ⟨_, .adopt request answers _ howed
              ⟨not_not.mp hgeneration, not_not.mp hnavigation, hcontext⟩ ?_, ?_⟩
            · exact fun hundock hresult hmarked =>
                cancel_mem_adoptGoal answers hundock hresult hmarked
            · have h := leaves_adoptGoal answers
                { s with navRequests := s.navRequests.erase request } request
              exact ⟨h.owners, h.next, h.sent⟩

theorem moves_undock {s : Executor} (call : HandleCall) (hcommand : call.request.command = .undock)
    (hseed : invalidSeed call.request = false) (hgates : s.refusal answers call = none) :
    Moves config s (.handle call, answers) (s.undock config answers call.request.commandId
      call.request.operatorAuthorized.truthy) := by
  unfold undock
  split
  · exact (keeps_ack s _ _ _).moves_keep config _
  · rename_i hidle
    by_cases hsends : answers.sendRaises .undock = true
    · simp only [hsends, if_true]
      exact ⟨_, .keep _ _, leaves_of_silent rfl (Nat.le_succ _) rfl⟩
    · rw [Bool.not_eq_true] at hsends
      simp only [hsends, Bool.false_eq_true, if_false]
      exact ⟨_, .undock call answers _ ⟨hcommand, hseed, hgates, hidle, hsends⟩,
        leaves_of_silent rfl (Nat.le_succ _) rfl⟩

theorem moves_onUndockEvent (s : Executor) (number : Nat) (response : GoalResponse) :
    Moves config s (.undockResponse number response, answers)
      (s.onUndockEvent config answers number response) := by
  unfold onUndockEvent
  split
  · exact (keeps_refl s).moves_keep config _
  · rename_i request hfind
    have hkeeps : ∀ result, Keeps { s with undockRequests := s.undockRequests.erase request }
        result → Moves config s (.undockResponse number response, answers) result :=
      fun result h => Leaves.moves_keep config (s := s) (h.of_owners rfl rfl) _
    unfold onUndockResponse
    split
    · exact hkeeps _ (keeps_refl _)
    · exact hkeeps _ (keeps_failUndock answers _ _)
    · refine hkeeps _ (keeps_of_silent rfl rfl ?_)
      split <;> rfl
    · exact hkeeps _ (keeps_refl _)
    · refine ⟨_, .endUndock _ _, leaves_of_silent rfl le_rfl ?_⟩
      simp [sent, List.filterMap_map]
    · rename_i undock hundock
      have hsome : s.undockActive.isSome := by
        obtain ⟨h, -⟩ := Option.filter_eq_some_iff.mp hundock
        exact Option.isSome_of_eq_some h
      refine ⟨_, .keep _ _, ?_⟩
      refine Leaves.then_keeps (leaves_of_silent ?_ le_rfl rfl) ?_
      · simp [owners, hsome]
      · split
        · exact keeps_of_silent rfl rfl rfl
        · split
          · exact (keeps_cancelAccepted answers _ _).of_owners rfl rfl
          · exact keeps_of_silent rfl rfl rfl

theorem moves_onUndockResult {s t : Executor} (commandId : String)
    (response : Except String UndockResult) (howners : t.owners = s.owners)
    (hnext : t.nextRequest = s.nextRequest) (event : ExecutorEvent × ClientAnswers) :
    Moves config s event (t.onUndockResult answers commandId response) := by
  have hkeeps : ∀ result, Keeps t result → Moves config s event result :=
    fun result h => Leaves.moves_keep config (h.of_owners howners hnext) _
  unfold onUndockResult
  split
  · exact hkeeps _ (keeps_refl _)
  · split
    · exact hkeeps _ (keeps_refl _)
    · split
      · exact hkeeps _ (keeps_failUndock answers _ _)
      · split
        · exact hkeeps _ (keeps_failUndock answers _ _)
        · refine ⟨_, .endUndock _ _, leaves_of_silent ?_ hnext.ge ?_⟩
          · rw [← howners]
            rfl
          · simp [sent, List.filterMap_map]

theorem moves_setInitialPose {s : Executor} (call : HandleCall) {goal : Goal}
    (hcommand : call.request.command = .setInitialPose)
    (hseed : invalidSeed call.request = false) (hgates : s.refusal answers call = none)
    (hgoal : call.request.goal = some goal) (measured : Bool) :
    Moves config s (.handle call, answers) (s.setInitialPose answers call.request.commandId goal
      call.request.operatorAuthorized.truthy measured) := by
  unfold setInitialPose
  split
  · exact (keeps_of_silent rfl rfl rfl : Keeps s (s, [.raised])).moves_keep config _
  · rename_i hpose
    split
    · exact (keeps_ack s _ _ _).moves_keep config _
    · rename_i hidle
      have hstarts : StartsMap answers s call :=
        ⟨hcommand, hseed, hgates, ⟨goal, hgoal, by simpa [Option.isSome_iff_ne_none] using hpose⟩,
          by simpa using hidle⟩
      simp only
      split
      · exact ⟨_, .map call answers _ hstarts, leaves_of_silent rfl (Nat.le_succ _) rfl⟩
      · exact ⟨_, .map call answers _ hstarts, leaves_of_silent rfl (Nat.le_succ _) rfl⟩

theorem moves_onMapResponse {s t : Executor} (request : Nat) (response : GoalResponse)
    (howners : t.owners = s.owners) (hnext : t.nextRequest = s.nextRequest)
    (event : ExecutorEvent × ClientAnswers) :
    Moves config s event (t.onMapResponse answers request response) := by
  have hkeeps : ∀ result, Keeps t result → Moves config s event result :=
    fun result h => Leaves.moves_keep config (h.of_owners howners hnext) _
  have hends : ∀ result : Executor × List ExecutorEmit,
      result.1.owners = { t.owners with map := false } → result.1.nextRequest = t.nextRequest →
      sent result.2 = [] → Moves config s event result := by
    intro result howned hnumber hsent
    refine ⟨_, .endMap _ _, leaves_of_silent (howned.trans ?_) (hnext.ge.trans hnumber.ge) hsent⟩
    rw [howners]
  unfold onMapResponse
  split
  · exact hkeeps _ (keeps_refl _)
  · rename_i map hmap
    split
    · exact hkeeps _ (keeps_refl _)
    · split
      · exact hends _ rfl rfl rfl
      · exact hends _ rfl rfl rfl
      · simp only [andThen]
        split
        · exact hends _ rfl rfl rfl
        · split
          · exact hkeeps _ (keeps_of_silent (by simp [owners, hmap]) rfl rfl)
          · split
            · exact hends _ rfl rfl rfl
            · exact hkeeps _ (keeps_of_silent (by simp [owners, hmap]) rfl rfl)

theorem moves_onMapResult {s t : Executor} (request : Nat) (response : Except String MapResult)
    (howners : t.owners = s.owners) (hnext : t.nextRequest = s.nextRequest)
    (event : ExecutorEvent × ClientAnswers) :
    Moves config s event (t.onMapResult request response) := by
  have hkeeps : ∀ result, Keeps t result → Moves config s event result :=
    fun result h => Leaves.moves_keep config (h.of_owners howners hnext) _
  unfold onMapResult
  split
  · exact hkeeps _ (keeps_refl _)
  · split
    · exact hkeeps _ (keeps_refl _)
    · refine ⟨_, .endMap _ _, leaves_of_silent ?_ hnext.ge ?_⟩
      · rw [← howners]
        rfl
      · simp only [sent]
        cases response with
        | error error => rfl
        | ok result =>
          simp only
          split <;> rfl

theorem moves_dispatch {s : Executor} (call : HandleCall)
    (hseed : invalidSeed call.request = false) (hgates : s.refusal answers call = none) :
    Moves config s (.handle call, answers) (s.dispatch config answers call) := by
  have hkeep : ∀ result, Keeps s result → Moves config s (.handle call, answers) result :=
    fun result h => h.moves_keep config _
  have hmap : s.mapActive = none := by
    unfold refusal at hgates
    split at hgates
    · simp at hgates
    · split at hgates
      · simp at hgates
      · rename_i h
        simpa using h
  unfold dispatch
  simp only
  split
  · exact moves_navigate config answers call _ hmap
  · exact hkeep _ (keeps_stop answers s _)
  · exact hkeep _ (keeps_setLidarPower config answers s _ _ _ _ _)
  · rename_i goal hcommand hgoal
    exact moves_setInitialPose config answers call hcommand hseed hgates hgoal _
  · rename_i hcommand
    exact moves_undock config answers call hcommand hseed hgates
  · exact hkeep _ (keeps_callDockService config answers s _ _)
  · exact hkeep _ (keeps_ack s _ _ _)
  · exact hkeep _ (keeps_refl s)

/-- What a frame does to the owners does not depend on what else it emits,
    destinations apart. -/
theorem OwnerStep.of_handle {s : Executor} {call : HandleCall}
    {emits more : List ExecutorEmit} {o : Owners}
    (h : OwnerStep config s (.handle call, answers) emits o)
    (hmore : ∀ request ∈ sent emits, request ∈ sent more) :
    OwnerStep config s (.handle call, answers) more o := by
  cases h with
  | keep => exact .keep _ _
  | mark _ _ commandId => exact .mark _ _ _
  | disable => exact .disable _ _
  | enter => exact .enter _ _ _
  | finish => exact .finish _ _
  | send _ _ _ undock map sends number =>
    exact .send _ _ _ undock map sends (hmore _ number)
  | sendRaised _ _ _ undock map raises number =>
    exact .sendRaised _ _ _ undock map raises (hmore _ number)
  | undock _ _ _ starts => exact .undock _ _ _ starts
  | endUndock => exact .endUndock _ _
  | map _ _ _ starts => exact .map _ _ _ starts
  | endMap => exact .endMap _ _

theorem moves_overridden {s : Executor} (call : HandleCall)
    (hseed : invalidSeed call.request = false) (hgates : s.refusal answers call = none) :
    Moves config s (.handle call, answers)
      (Executor.andThen (s, overrideLog call) fun s => s.dispatch config answers call) := by
  obtain ⟨o, hstep, hleaves⟩ := moves_dispatch config answers call hseed hgates
  have hlog : sent (overrideLog call) = [] := by
    unfold overrideLog
    split <;> rfl
  refine ⟨o, hstep.of_handle config answers (by simp [hlog]), hleaves.owners, hleaves.next, ?_⟩
  simpa [hlog] using hleaves.sent

theorem moves_handle (s : Executor) (call : HandleCall) :
    Moves config s (.handle call, answers) (s.handle config answers call) := by
  have hkeep : ∀ result, Keeps s result → Moves config s (.handle call, answers) result :=
    fun result h => h.moves_keep config _
  have hcancel : ∀ navigation, Moves config s (.handle call, answers)
      (s.cancelCommand answers call.request.commandId navigation) := by
    intro navigation
    have hmapped : Keeps s (if s.mapActive.any (·.commandId = call.request.commandId) then
        s.checkMapConnection answers true else (s, [])) := by
      split
      · exact keeps_checkMapConnection answers s true
      · exact keeps_refl s
    unfold cancelCommand
    simp only
    generalize (if s.mapActive.any (·.commandId = call.request.commandId) then
      s.checkMapConnection answers true else (s, [])) = mapped at hmapped ⊢
    split
    · exact hkeep _ hmapped
    · refine moves_of_mark config call.request.commandId ?_ _
      rcases leaves_cancelNavigation answers mapped.1 call.request.commandId with h | h
      · exact .inl (hmapped.then_keeps h)
      · rw [hmapped.owners] at h
        exact .inr (hmapped.andThen h)
  have hmotor : Moves config s (.handle call, answers) (s.motorPower config answers call) := by
    unfold motorPower
    simp only
    split
    · exact hkeep _ (keeps_ack s _ _ _)
    · split
      · exact ⟨_, .disable _ _, leaves_motorDisable config answers s _⟩
      · exact hkeep _ (keeps_motorEnable config answers s _)
  have hgated : invalidSeed call.request = false →
      Moves config s (.handle call, answers) (s.gated config answers call) := by
    intro hseed
    unfold gated
    simp only
    split
    · exact hkeep _ (keeps_ack s _ _ _)
    · split
      · exact hkeep _ (keeps_stopMap answers s _)
      · split
        · exact hkeep _ (keeps_ack s _ _ _)
        · rename_i hgates
          exact moves_overridden config answers call hseed hgates
  unfold handle
  simp only
  split
  · exact hkeep _ (keeps_ack s _ _ _)
  · rename_i hseed
    rw [Bool.not_eq_true] at hseed
    split
    · exact hkeep _ (keeps_of_silent rfl rfl rfl)
    · exact hcancel true
    · exact hcancel false
    · exact hmotor
    · exact hmotor
    · exact hkeep _ (keeps_dockReset config answers s _)
    · exact hgated hseed

/-- **Step lemma.**  Whatever the event, the owners move by one of the ways of
    `OwnerStep`. -/
theorem step_moves (s : Executor) (event : ExecutorEvent × ClientAnswers) :
    Moves config s event (s.step config event) := by
  obtain ⟨event, answers⟩ := event
  cases event with
  | handle call => exact moves_handle config answers s call
  | goalResponse request response => exact moves_onGoalEvent config answers s request response
  | navigationResult request response =>
    simp only [step]
    split
    · exact (keeps_refl s).moves_keep config _
    · rename_i owed _
      rcases leaves_onResult { s with navResults := s.navResults.erase owed } owed.2 response
        with h | h
      · exact moves_of_keeps config h rfl rfl
      · exact ⟨_, .finish _ _, h.owners, h.next, h.sent⟩
  | cancelReply reply response =>
    simp only [step, onCancelReply]
    split
    · split
      · exact moves_of_keeps config (keeps_onNavigationCancelResponse _ _ _) rfl rfl
      · exact moves_of_keeps config (keeps_onCancelResponse _ _ _) rfl rfl
    · exact (keeps_refl s).moves_keep config _
  | navigationFeedback commandId request distance =>
    exact (keeps_onFeedback answers s _ _ _).moves_keep config _
  | undockResponse request response => exact moves_onUndockEvent config answers s request response
  | undockResult request response =>
    simp only [step]
    split
    · exact (keeps_refl s).moves_keep config _
    · rename_i owed _
      exact moves_onUndockResult config answers
        (s := s) (t := { s with undockResults := s.undockResults.erase owed }) _ _ rfl rfl _
  | undockFeedback commandId state hardwarePhase =>
    exact (keeps_onUndockFeedback answers s _ _ _).moves_keep config _
  | undockHealth => exact (keeps_checkUndockHealth config answers s).moves_keep config _
  | mapResponse request response =>
    simp only [step]
    split
    · exact moves_onMapResponse config answers
        (s := s) (t := { s with mapRequests := s.mapRequests.erase request }) _ _ rfl rfl _
    · exact (keeps_refl s).moves_keep config _
  | mapResult request response =>
    simp only [step]
    split
    · exact moves_onMapResult config
        (s := s) (t := { s with mapResults := s.mapResults.erase request }) _ _ rfl rfl _
    · exact (keeps_refl s).moves_keep config _
  | mapFeedback requestId stage => exact (keeps_onMapFeedback s _ _).moves_keep config _
  | mapConnection => exact (keeps_checkMapConnection answers s false).moves_keep config _
  | serviceResult service commandId response =>
    simp only [step]
    split
    · exact moves_of_keeps config (keeps_onDockServiceResult _ _ _ _) rfl rfl
    · exact (keeps_refl s).moves_keep config _
  | lidarResult commandId response =>
    simp only [step]
    split
    · exact moves_of_keeps config (keeps_onLidarResult answers _ _ _) rfl rfl
    · exact (keeps_refl s).moves_keep config _
  | navigationContext base =>
    exact ⟨_, .enter _ _ _, leaves_updateNavigationContext s base⟩
  | pathPoll => exact (keeps_pollNavigationPath answers s).moves_keep config _
  | pathDone query => exact ⟨_, .keep _ _, leaves_of_silent rfl le_rfl rfl⟩
  | pathReply query reply =>
    simp only [step]
    split
    · exact moves_of_keeps config (keeps_onNavigationPath config _ _ _) rfl rfl
    · exact (keeps_refl s).moves_keep config _

/-! ### The numbers of the requests -/

/-- The unanswered requests have different numbers, all given out already. -/
structure Numbered (s : Executor) : Prop where
  below : ∀ request ∈ s.navRequests, request.request < s.nextRequest
  distinct : (s.navRequests.map (·.request)).Nodup

theorem Numbered.eq_of_request {s : Executor} (h : s.Numbered) {request other : NavRequest}
    (hrequest : request ∈ s.navRequests) (hother : other ∈ s.navRequests)
    (heq : request.request = other.request) : request = other :=
  List.inj_on_of_nodup_map h.distinct hrequest hother heq

theorem Numbered.nodup {s : Executor} (h : s.Numbered) : s.navRequests.Nodup :=
  List.Nodup.of_map _ h.distinct

theorem navRequests_clear (o : Owners) (commandId : String) :
    (o.clear commandId).navRequests = o.navRequests := by
  unfold Owners.clear
  split <;> rfl

theorem numbered_step {s : Executor} (event : ExecutorEvent × ClientAnswers) (h : s.Numbered) :
    (s.step config event).1.Numbered := by
  obtain ⟨o, hstep, hleaves⟩ := step_moves config s event
  have hrequests : (s.step config event).1.navRequests = o.navRequests := by
    rw [← hleaves.owners]
    rfl
  have hsub : ∀ requests : List NavRequest, requests.Sublist s.navRequests →
      o.navRequests = requests → (s.step config event).1.Numbered := by
    intro requests hsublist heq
    refine ⟨fun request hmem => ?_, ?_⟩
    · rw [hrequests, heq] at hmem
      exact (h.below request (hsublist.subset hmem)).trans_le hleaves.next
    · rw [hrequests, heq]
      exact h.distinct.sublist (hsublist.map _)
  cases hstep with
  | send call answers emits _ _ _ number =>
    have hlt := (hleaves.sent _ number).2
    refine ⟨fun request hmem => ?_, ?_⟩
    · rw [hrequests] at hmem
      rcases List.mem_cons.mp hmem with rfl | hmem
      · exact hlt
      · exact (h.below request hmem).trans hlt
    · rw [hrequests]
      refine List.nodup_cons.mpr ⟨fun hmem => ?_, h.distinct⟩
      obtain ⟨request, howed, heq⟩ := List.mem_map.mp hmem
      exact (h.below request howed).ne heq
  | drop request => exact hsub _ List.erase_sublist rfl
  | decline request => exact hsub _ List.erase_sublist (navRequests_clear _ _)
  | adopt request => exact hsub _ List.erase_sublist (navRequests_clear _ _)
  | _ => exact hsub _ (.refl _) rfl

theorem numbered_init : ({} : Executor).Numbered := ⟨by simp, by simp⟩

end Executor

end PatrolBot
