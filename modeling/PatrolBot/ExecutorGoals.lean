import PatrolBot.ExecutorStop

/-!
# What an event does to the goals

Stops, cancels and results are about the goals the executor runs and about what
the servers still owe it.  `Goals` is that part of its state, and `Act` lists the
updates any method makes to it, each with the cancels and results it sends; an
event is a chain of them.  What is kept by every update is kept by every run.
-/

namespace PatrolBot

/-! ### What is told and what is asked -/

/-- The command a `command.result` is for. -/
def ExecutorEmit.resultId : ExecutorEmit → Option String
  | .result commandId .. => some commandId
  | _ => none

/-- The goal a cancel is requested for. -/
def ExecutorEmit.canceled : ExecutorEmit → Option (ActionKind × Nat)
  | .cancelNavigation request => some (.navigation, request)
  | .cancelUndock request => some (.undock, request)
  | .cancelMap request => some (.map, request)
  | _ => none

def resultIds (emits : List ExecutorEmit) : List String := emits.filterMap (·.resultId)

def cancels (emits : List ExecutorEmit) : List (ActionKind × Nat) := emits.filterMap (·.canceled)

@[simp] theorem resultIds_nil : resultIds [] = [] := rfl

@[simp] theorem cancels_nil : cancels [] = [] := rfl

@[simp] theorem resultIds_append (emits more : List ExecutorEmit) :
    resultIds (emits ++ more) = resultIds emits ++ resultIds more := List.filterMap_append

@[simp] theorem cancels_append (emits more : List ExecutorEmit) :
    cancels (emits ++ more) = cancels emits ++ cancels more := List.filterMap_append

/-- The result of a stop whose goal had ended before the cancel came. -/
def alreadyStopped (commandId : String) : ExecutorEmit :=
  .result commandId .succeeded (some "The robot had already stopped.")

theorem mem_resultIds_of_alreadyStopped {commandId : String} {emits : List ExecutorEmit}
    (h : alreadyStopped commandId ∈ emits) : commandId ∈ resultIds emits :=
  List.mem_filterMap.mpr ⟨_, h, rfl⟩

/-- Neither a result nor a cancel. -/
structure Quiet (emits : List ExecutorEmit) : Prop where
  results : resultIds emits = []
  cancels : cancels emits = []

/-! ### The goals -/

/-- The navigation goal, as far as stops and cancels go. -/
structure RunningGoal where
  commandId : String
  request : Nat
  stopCommandIds : List String
deriving DecidableEq

structure RunningUndock where
  commandId : String
  request : Nat
  accepted : Bool
  cancelRequested : Bool
  stopCommandIds : List String

def ActiveGoal.running (active : ActiveGoal) : RunningGoal :=
  ⟨active.commandId, active.request, active.stopCommandIds⟩

def ActiveUndock.running (undock : ActiveUndock) : RunningUndock :=
  ⟨undock.commandId, undock.request, undock.accepted, undock.cancelRequested,
    undock.stopCommandIds⟩

structure Goals where
  active : Option RunningGoal
  undock : Option RunningUndock
  map : Option ActiveMap
  generation : Nat
  nextRequest : Nat
  navRequests : List NavRequest
  navResults : List (Nat × String)
  undockRequests : List UndockRequest
  undockResults : List (Nat × String)
  mapRequests : List Nat
  mapResults : List Nat
  cancelReplies : List CancelReply
  /-- The ids of the service calls without an answer yet. -/
  calls : List String

def Executor.goals (s : Executor) : Goals where
  active := s.active.map (·.running)
  undock := s.undockActive.map (·.running)
  map := s.mapActive
  generation := s.motorDisableGeneration
  nextRequest := s.nextRequest
  navRequests := s.navRequests
  navResults := s.navResults
  undockRequests := s.undockRequests
  undockResults := s.undockResults
  mapRequests := s.mapRequests
  mapResults := s.mapResults
  cancelReplies := s.cancelReplies
  calls := s.serviceCalls.map Prod.snd ++ s.lidarCalls

/-- The goal runs, as the executor knows. -/
def Goals.Runs (g : Goals) : ActionKind → Nat → Prop
  | .navigation, request => ∃ active, g.active = some active ∧ active.request = request
  | .undock, request => ∃ undock, g.undock = some undock ∧ undock.accepted = true ∧
      undock.request = request
  | .map, request => ∃ map, g.map = some map ∧ map.accepted = true ∧ map.request = request

/-- The command id a frame brings in.  A `cancel` names another command's. -/
def ExecutorEvent.commandId? : ExecutorEvent → Option String
  | .handle call =>
    if call.request.command ∈ [Command.cancel, .cancelMap] then none
    else some call.request.commandId
  | _ => none

/-! ### The updates -/

/-- One update of the goals by a method, and what it sends. -/
inductive Act (event : ExecutorEvent × ClientAnswers) : Goals → List ExecutorEmit → Goals → Prop
  | aside {g : Goals} (nextRequest : Nat) (calls : List String) (emits : List ExecutorEmit)
      (next : g.nextRequest ≤ nextRequest)
      (known : ∀ id ∈ calls, id ∈ g.calls ∨ event.1.commandId? = some id)
      (results : ∀ id ∈ resultIds emits, id ∈ g.calls ∨ event.1.commandId? = some id)
      (silent : cancels emits = []) :
      Act event g emits { g with nextRequest := nextRequest, calls := calls }
  | disable {g : Goals} : Act event g [] { g with generation := g.generation + 1 }
  | cancel {g : Goals} (kind : ActionKind) (request : Nat) (emits : List ExecutorEmit)
      (runs : g.Runs kind request) (results : resultIds emits = [])
      (cancels_eq : cancels emits = [(kind, request)]) : Act event g emits g
  | await {g : Goals} (reply : CancelReply)
      (origin : ∀ id, reply = .stop id → Executor.IsStop id event ∨
        ∃ request, event.1 = .undockResponse request .accepted) :
      Act event g [] { g with cancelReplies := reply :: g.cancelReplies }
  | take {g : Goals} (reply : CancelReply) (response : Except String CancelResponse)
      (owed : reply ∈ g.cancelReplies) (event_eq : event.1 = .cancelReply reply response) :
      Act event g [] { g with cancelReplies := g.cancelReplies.erase reply }
  -- Navigation
  | send {g : Goals} (request : NavRequest) (emits : List ExecutorEmit)
      (named : event.1.commandId? = some request.commandId)
      (number : request.request = g.nextRequest) (dated : request.generation = g.generation)
      (quiet : Quiet emits) :
      Act event g emits { g with
        nextRequest := g.nextRequest + 1, navRequests := request :: g.navRequests }
  | turnDown {g : Goals} (request : NavRequest) (emits : List ExecutorEmit)
      (owed : request ∈ g.navRequests) (results : resultIds emits = [])
      (own : ∀ c ∈ cancels emits, c = (.navigation, request.request)) :
      Act event g emits { g with navRequests := g.navRequests.erase request }
  | adopt {g : Goals} (request : NavRequest) (emits : List ExecutorEmit)
      (owed : request ∈ g.navRequests) (dated : request.generation = g.generation)
      (results : resultIds emits = match g.active with
        | none => []
        | some active => active.commandId :: active.stopCommandIds)
      (silent : cancels emits = []) (unfound : ∀ id, alreadyStopped id ∉ emits) :
      Act event g emits { g with
        active := some ⟨request.commandId, request.request, []⟩
        navRequests := g.navRequests.erase request }
  | awaitResult {g : Goals} (active : RunningGoal) (active_eq : g.active = some active) :
      Act event g [] { g with
        navResults := (active.request, active.commandId) :: g.navResults }
  | takeResult {g : Goals} (owed : Nat × String) (owed_mem : owed ∈ g.navResults) :
      Act event g [] { g with navResults := g.navResults.erase owed }
  | finish {g : Goals} (active : RunningGoal) (emits : List ExecutorEmit)
      (active_eq : g.active = some active)
      (results : resultIds emits = active.commandId :: active.stopCommandIds)
      (silent : cancels emits = [])
      (unfound : ∀ id, alreadyStopped id ∈ emits → id = active.commandId) :
      Act event g emits { g with active := none }
  | attach {g : Goals} (active : RunningGoal) (id : String) (active_eq : g.active = some active)
      (stop : Executor.IsStop id event) :
      Act event g [] { g with
        active := some { active with stopCommandIds := active.stopCommandIds ++ [id] } }
  | claim {g : Goals} (active : RunningGoal) (id : String) (emits : List ExecutorEmit)
      (active_eq : g.active = some active) (waits : id ∈ active.stopCommandIds)
      (results : resultIds emits = [id]) (silent : cancels emits = [])
      (found : ∀ id', alreadyStopped id' ∈ emits → id' = id ∧ ∃ response,
        event.1 = .cancelReply (.stop id) (.ok response) ∧ cancelVerdict response = .finished) :
      Act event g emits { g with
        active := some { active with stopCommandIds := active.stopCommandIds.erase id } }
  -- Undock
  | sendUndock {g : Goals} (id : String) (emits : List ExecutorEmit)
      (named : event.1.commandId? = some id) (idle : g.undock = none) (quiet : Quiet emits) :
      Act event g emits { g with
        nextRequest := g.nextRequest + 1
        undock := some ⟨id, g.nextRequest, false, false, []⟩
        undockRequests := ⟨g.nextRequest, id, g.generation⟩ :: g.undockRequests }
  | dropUndock {g : Goals} (request : UndockRequest) (emits : List ExecutorEmit)
      (owed : request ∈ g.undockRequests) (results : resultIds emits = [])
      (own : ∀ c ∈ cancels emits, c = (.undock, request.request) ∧
        ∀ undock, g.undock = some undock → undock.commandId ≠ request.commandId) :
      Act event g emits { g with undockRequests := g.undockRequests.erase request }
  | declineUndock {g : Goals} (request : UndockRequest) (undock : RunningUndock)
      (emits : List ExecutorEmit) (owed : request ∈ g.undockRequests)
      (undock_eq : g.undock = some undock) (same : undock.commandId = request.commandId)
      (results : resultIds emits = undock.stopCommandIds) (silent : cancels emits = [])
      (unfound : ∀ id, alreadyStopped id ∉ emits) :
      Act event g emits { g with
        undock := none, undockRequests := g.undockRequests.erase request }
  | acceptUndock {g : Goals} (request : UndockRequest) (undock : RunningUndock)
      (cancelRequested awaited : Bool) (emits : List ExecutorEmit)
      (owed : request ∈ g.undockRequests) (undock_eq : g.undock = some undock)
      (same : undock.commandId = request.commandId) (quiet : Quiet emits) :
      Act event g emits { g with
        undock := some { undock with accepted := true, cancelRequested := cancelRequested }
        undockRequests := g.undockRequests.erase request
        undockResults := if awaited then (request.request, request.commandId) :: g.undockResults
          else g.undockResults }
  | takeUndockResult {g : Goals} (owed : Nat × String) (owed_mem : owed ∈ g.undockResults) :
      Act event g [] { g with undockResults := g.undockResults.erase owed }
  | endUndock {g : Goals} (owed : Nat × String) (undock : RunningUndock)
      (emits : List ExecutorEmit) (owed_mem : owed ∈ g.undockResults)
      (undock_eq : g.undock = some undock)
      (results : resultIds emits = undock.commandId :: undock.stopCommandIds)
      (silent : cancels emits = [])
      (unfound : ∀ id, alreadyStopped id ∈ emits → id = undock.commandId) :
      Act event g emits { g with
        undock := none, undockResults := g.undockResults.erase owed }
  | markUndock {g : Goals} (undock : RunningUndock) (undock_eq : g.undock = some undock) :
      Act event g [] { g with undock := some { undock with cancelRequested := true } }
  | attachUndock {g : Goals} (undock : RunningUndock) (id : String)
      (undock_eq : g.undock = some undock) (stop : Executor.IsStop id event) :
      Act event g [] { g with
        undock := some { undock with
          cancelRequested := true, stopCommandIds := undock.stopCommandIds ++ [id] } }
  | claimUndock {g : Goals} (undock : RunningUndock) (id : String) (emits : List ExecutorEmit)
      (undock_eq : g.undock = some undock) (waits : id ∈ undock.stopCommandIds)
      (results : resultIds emits = [id]) (silent : cancels emits = [])
      (found : ∀ id', alreadyStopped id' ∈ emits → id' = id ∧ ∃ response,
        event.1 = .cancelReply (.stop id) (.ok response) ∧ cancelVerdict response = .finished) :
      Act event g emits { g with
        undock := some { undock with stopCommandIds := undock.stopCommandIds.erase id } }
  -- Map localization
  | sendMap {g : Goals} (id : String) (emits : List ExecutorEmit) (owed : Bool)
      (named : event.1.commandId? = some id) (idle : g.map = none) (quiet : Quiet emits) :
      Act event g emits { g with
        nextRequest := g.nextRequest + 1
        map := some { commandId := id, request := g.nextRequest }
        mapRequests := if owed then g.nextRequest :: g.mapRequests else g.mapRequests }
  | markMap {g : Goals} (map : ActiveMap) (emits : List ExecutorEmit)
      (map_eq : g.map = some map) (results : resultIds emits = [])
      (asked : cancels emits = if map.accepted then [(.map, map.request)] else []) :
      Act event g emits { g with map := some { map with cancel := true } }
  | dropMap {g : Goals} (request : Nat) (owed : request ∈ g.mapRequests)
      (other : ∀ map, g.map = some map → map.request ≠ request) :
      Act event g [] { g with mapRequests := g.mapRequests.erase request }
  | refuseMap {g : Goals} (map : ActiveMap) (emits : List ExecutorEmit)
      (owed : map.request ∈ g.mapRequests) (map_eq : g.map = some map)
      (results : ∀ id ∈ resultIds emits, id = map.commandId) (silent : cancels emits = []) :
      Act event g emits { g with
        map := none, mapRequests := g.mapRequests.erase map.request }
  | acceptMap {g : Goals} (map : ActiveMap) (awaited : Bool) (emits : List ExecutorEmit)
      (owed : map.request ∈ g.mapRequests) (map_eq : g.map = some map)
      (raises : awaited = false → event.2.resultRaises .map = true)
      (results : resultIds emits = [])
      (asked : cancels emits = if awaited && map.cancel then [(.map, map.request)] else []) :
      Act event g emits { g with
        map := some { map with accepted := true }
        mapRequests := g.mapRequests.erase map.request
        mapResults := if awaited then map.request :: g.mapResults else g.mapResults }
  | abandonMap {g : Goals} (map : ActiveMap) (emits : List ExecutorEmit)
      (map_eq : g.map = some map)
      (raises : event.2.resultRaises .map = true ∨ event.2.cancelRaises .map = true)
      (results : resultIds emits = [map.commandId]) (silent : cancels emits = []) :
      Act event g emits { g with map := none }
  | dropMapResult {g : Goals} (request : Nat) (owed : request ∈ g.mapResults)
      (other : ∀ map, g.map = some map → map.request ≠ request) :
      Act event g [] { g with mapResults := g.mapResults.erase request }
  | endMap {g : Goals} (map : ActiveMap) (emits : List ExecutorEmit)
      (owed : map.request ∈ g.mapResults) (map_eq : g.map = some map)
      (results : resultIds emits = [map.commandId]) (silent : cancels emits = []) :
      Act event g emits { g with
        map := none, mapResults := g.mapResults.erase map.request }

/-- A chain of updates, and all they send. -/
inductive Acts (event : ExecutorEvent × ClientAnswers) : Goals → List ExecutorEmit → Goals → Prop
  | nil (g : Goals) : Acts event g [] g
  | cons {g g' g'' : Goals} {emits more : List ExecutorEmit} (first : Act event g emits g')
      (rest : Acts event g' more g'') : Acts event g (emits ++ more) g''

section

variable {event : ExecutorEvent × ClientAnswers} {g g' g'' : Goals} {emits more : List ExecutorEmit}

theorem Act.acts (h : Act event g emits g') : Acts event g emits g' := by
  have := Acts.cons h (.nil g')
  rwa [List.append_nil] at this

theorem Acts.trans (h : Acts event g emits g') (h' : Acts event g' more g'') :
    Acts event g (emits ++ more) g'' := by
  induction h with
  | nil => exact h'
  | cons first _ ih =>
    rw [List.append_assoc]
    exact .cons first (ih h')

theorem acts_quiet (h : Quiet emits) : Acts event g emits g :=
  Act.acts (.aside g.nextRequest g.calls emits le_rfl (fun _ => .inl)
    (by simp [h.results]) h.cancels)

/-- What every update keeps, a chain of them keeps. -/
theorem Acts.keeps {P : Goals → Prop} (hP : ∀ {g emits g'}, Act event g emits g' → P g → P g')
    (h : Acts event g emits g') (hg : P g) : P g' := by
  induction h with
  | nil => exact hg
  | cons first _ ih => exact ih (hP first hg)

end

end PatrolBot
