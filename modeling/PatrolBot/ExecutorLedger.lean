import PatrolBot.ExecutorUpdates

/-!
# What the servers owe for a goal

One undock and one map localization at a time: what their servers still owe
belongs to the goal in the slot.  A destination is known by its number, under
one command id.  The run lemmas hold of every run, the one about the map of the
runs in which no client call raises.
-/

namespace PatrolBot

/-! ### The undock slot and its server -/

/-- The undock server owes the response of the goal that waits for it, or the
    result of the goal that was accepted. -/
inductive UndockLedger :
    Option RunningUndock → List UndockRequest → List (Nat × String) → Prop
  | idle : UndockLedger none [] []
  | asked (undock : RunningUndock) (request : UndockRequest) (waits : undock.accepted = false)
      (number : request.request = undock.request) (same : request.commandId = undock.commandId) :
      UndockLedger (some undock) [request] []
  | unknown (undock : RunningUndock) : UndockLedger (some undock) [] []
  | runs (undock : RunningUndock) (accepted : undock.accepted = true) :
      UndockLedger (some undock) [] [(undock.request, undock.commandId)]

/-- The map localization server, likewise. -/
inductive MapLedger : Option ActiveMap → List Nat → List Nat → Prop
  | idle : MapLedger none [] []
  | asked (map : ActiveMap) (waits : map.accepted = false) :
      MapLedger (some map) [map.request] []
  | unknown (map : ActiveMap) : MapLedger (some map) [] []
  | runs (map : ActiveMap) (accepted : map.accepted = true) :
      MapLedger (some map) [] [map.request]

/-- The numbers in the slots and of the unanswered requests were given out. -/
structure Goals.Numbered (g : Goals) : Prop where
  undock : ∀ undock, g.undock = some undock → undock.request < g.nextRequest
  map : ∀ map, g.map = some map → map.request < g.nextRequest
  navRequests : ∀ request ∈ g.navRequests, request.request < g.nextRequest
  undockRequests : ∀ request ∈ g.undockRequests, request.request < g.nextRequest
  mapRequests : ∀ request ∈ g.mapRequests, request < g.nextRequest

/-- The destinations that are sent, run or owe a result, with their commands. -/
def Goals.destinations (g : Goals) : List (Nat × String) :=
  g.navRequests.map (fun request => (request.request, request.commandId)) ++ g.navResults ++
    (g.active.map fun active => (active.request, active.commandId)).toList

/-- A destination's number tells its command. -/
structure Goals.Named (g : Goals) : Prop where
  given : ∀ destination ∈ g.destinations, destination.1 < g.nextRequest
  command : ∀ destination ∈ g.destinations, ∀ other ∈ g.destinations,
    destination.1 = other.1 → destination.2 = other.2

/-- No request is from a later generation. -/
structure Goals.Dated (g : Goals) : Prop where
  navRequests : ∀ request ∈ g.navRequests, request.generation ≤ g.generation
  undockRequests : ∀ request ∈ g.undockRequests, request.generation ≤ g.generation

section

variable {event : ExecutorEvent × ClientAnswers} {g g' : Goals} {emits : List ExecutorEmit}

theorem Act.undockLedger (h : Act event g emits g')
    (hg : UndockLedger g.undock g.undockRequests g.undockResults) :
    UndockLedger g'.undock g'.undockRequests g'.undockResults := by
  obtain ⟨active, slot, map, generation, nextRequest, navRequests, navResults, requests, results,
    mapRequests, mapResults, cancelReplies, calls⟩ := g
  cases h with
  | sendUndock id _ _ idle _ =>
    obtain rfl : slot = none := idle
    cases hg with
    | idle => exact .asked _ _ rfl rfl rfl
  | dropUndock request _ owed _ _ =>
    cases hg with
    | asked undock owing waits number same =>
      obtain rfl := List.mem_singleton.mp owed
      simp only [List.erase_cons_head]
      exact .unknown undock
    | _ => exact absurd owed List.not_mem_nil
  | declineUndock request undock _ owed undock_eq _ _ _ _ =>
    cases hg with
    | asked undock' owing waits number same =>
      obtain rfl := List.mem_singleton.mp owed
      simp only [List.erase_cons_head]
      exact .idle
    | _ => exact absurd owed List.not_mem_nil
  | acceptUndock request undock cancelRequested awaited _ owed undock_eq _ _ =>
    cases hg with
    | asked undock' owing waits number same =>
      obtain rfl := List.mem_singleton.mp owed
      obtain rfl := Option.some.inj undock_eq
      simp only [List.erase_cons_head]
      cases awaited with
      | false => exact .unknown _
      | true =>
        rw [if_pos rfl, number, same]
        exact .runs { undock' with accepted := true, cancelRequested := cancelRequested } rfl
    | _ => exact absurd owed List.not_mem_nil
  | takeUndockResult owed owed_mem =>
    cases hg with
    | runs undock accepted =>
      obtain rfl := List.mem_singleton.mp owed_mem
      simp only [List.erase_cons_head]
      exact .unknown undock
    | _ => exact absurd owed_mem List.not_mem_nil
  | endUndock owed undock _ owed_mem undock_eq _ _ _ =>
    cases hg with
    | runs undock' accepted =>
      obtain rfl := List.mem_singleton.mp owed_mem
      simp only [List.erase_cons_head]
      exact .idle
    | _ => exact absurd owed_mem List.not_mem_nil
  | markUndock undock undock_eq =>
    cases hg with
    | idle => cases undock_eq
    | asked undock' request waits number same =>
      obtain rfl := Option.some.inj undock_eq
      exact .asked _ request waits number same
    | unknown => exact .unknown _
    | runs undock' accepted =>
      obtain rfl := Option.some.inj undock_eq
      exact .runs { undock' with cancelRequested := true } accepted
  | attachUndock undock id undock_eq _ =>
    cases hg with
    | idle => cases undock_eq
    | asked undock' request waits number same =>
      obtain rfl := Option.some.inj undock_eq
      exact .asked _ request waits number same
    | unknown => exact .unknown _
    | runs undock' accepted =>
      obtain rfl := Option.some.inj undock_eq
      exact .runs { undock' with
        cancelRequested := true, stopCommandIds := undock'.stopCommandIds ++ [id] } accepted
  | claimUndock undock id _ undock_eq _ _ _ _ =>
    cases hg with
    | idle => cases undock_eq
    | asked undock' request waits number same =>
      obtain rfl := Option.some.inj undock_eq
      exact .asked _ request waits number same
    | unknown => exact .unknown _
    | runs undock' accepted =>
      obtain rfl := Option.some.inj undock_eq
      exact .runs { undock' with stopCommandIds := undock'.stopCommandIds.erase id } accepted
  | _ => exact hg

/-- Without an exception of the client, the map slot and its server agree. -/
theorem Act.mapLedger (hresult : event.2.resultRaises .map = false)
    (hcancel : event.2.cancelRaises .map = false) (h : Act event g emits g')
    (hg : MapLedger g.map g.mapRequests g.mapResults) :
    MapLedger g'.map g'.mapRequests g'.mapResults := by
  obtain ⟨active, undock, slot, generation, nextRequest, navRequests, navResults, undockRequests,
    undockResults, requests, results, cancelReplies, calls⟩ := g
  cases h with
  | sendMap id _ owed _ idle _ =>
    obtain rfl : slot = none := idle
    cases hg with
    | idle =>
      cases owed with
      | false => exact .unknown _
      | true => exact .asked _ rfl
  | markMap map _ map_eq _ _ =>
    cases hg with
    | idle => cases map_eq
    | asked map' waits =>
      obtain rfl := Option.some.inj map_eq
      exact .asked { map' with cancel := true } waits
    | unknown => exact .unknown _
    | runs map' accepted =>
      obtain rfl := Option.some.inj map_eq
      exact .runs { map' with cancel := true } accepted
  | dropMap request owed other =>
    cases hg with
    | asked map waits => exact absurd (List.mem_singleton.mp owed).symm (other map rfl)
    | _ => exact absurd owed List.not_mem_nil
  | refuseMap map _ owed map_eq _ _ =>
    cases hg with
    | asked map' waits =>
      obtain rfl := Option.some.inj map_eq
      simp only [List.erase_cons_head]
      exact .idle
    | _ => exact absurd owed List.not_mem_nil
  | acceptMap map awaited _ owed map_eq _ _ _ =>
    cases hg with
    | asked map' waits =>
      obtain rfl := Option.some.inj map_eq
      simp only [List.erase_cons_head]
      cases awaited with
      | false => exact .unknown _
      | true => exact .runs { map' with accepted := true } rfl
    | _ => exact absurd owed List.not_mem_nil
  | abandonMap map _ _ raises _ _ =>
    rcases raises with raises | raises
    · simp [hresult] at raises
    · simp [hcancel] at raises
  | dropMapResult request owed other =>
    cases hg with
    | runs map accepted => exact absurd (List.mem_singleton.mp owed).symm (other map rfl)
    | _ => exact absurd owed List.not_mem_nil
  | endMap map _ owed map_eq _ _ =>
    cases hg with
    | runs map' accepted =>
      obtain rfl := Option.some.inj map_eq
      simp only [List.erase_cons_head]
      exact .idle
    | _ => exact absurd owed List.not_mem_nil
  | _ => exact hg

theorem Act.nextRequest_le (h : Act event g emits g') : g.nextRequest ≤ g'.nextRequest := by
  cases h with
  | aside _ _ _ next _ _ _ => exact next
  | send => exact Nat.le_succ _
  | sendUndock => exact Nat.le_succ _
  | sendMap => exact Nat.le_succ _
  | _ => exact le_rfl

/-- The requests stay, or one is added under the next number. -/
theorem Act.navRequests_subset (h : Act event g emits g') :
    g'.navRequests ⊆ g.navRequests ∨ ∃ request, g'.navRequests = request :: g.navRequests ∧
      request.request = g.nextRequest ∧ request.generation = g'.generation ∧
      g'.nextRequest = g.nextRequest + 1 := by
  cases h with
  | send request _ _ number dated _ => exact .inr ⟨request, rfl, number, dated, rfl⟩
  | turnDown => exact .inl List.erase_subset
  | adopt => exact .inl List.erase_subset
  | _ => exact .inl (List.Subset.refl _)

/-- A cancel is requested for a goal that runs, or with the response to its request. -/
inductive Asked (g g' : Goals) : ActionKind → Nat → Prop
  | running {kind : ActionKind} {number : Nat} (runs : g.Runs kind number) (same : g' = g) :
      Asked g g' kind number
  | turnedDown (request : NavRequest) (owed : request ∈ g.navRequests)
      (answered : g' = { g with navRequests := g.navRequests.erase request }) :
      Asked g g' .navigation request.request
  | dropped (request : UndockRequest) (owed : request ∈ g.undockRequests)
      (other : ∀ undock, g.undock = some undock → undock.commandId ≠ request.commandId) :
      Asked g g' .undock request.request
  | map (map : ActiveMap) (map_eq : g.map = some map) : Asked g g' .map map.request

theorem Act.asked (h : Act event g emits g') {kind : ActionKind} {number : Nat}
    (hmem : (kind, number) ∈ cancels emits) : Asked g g' kind number := by
  have hsilent : ∀ {after : Goals}, cancels emits = [] → Asked g after kind number := by
    intro after hnone
    rw [hnone] at hmem
    exact absurd hmem List.not_mem_nil
  cases h with
  | cancel kind' request _ runs _ cancels_eq =>
    rw [cancels_eq] at hmem
    obtain ⟨rfl, rfl⟩ := Prod.mk.inj (List.mem_singleton.mp hmem)
    exact .running runs rfl
  | turnDown request _ owed _ own =>
    obtain ⟨rfl, rfl⟩ := Prod.mk.inj (own _ hmem)
    exact .turnedDown request owed rfl
  | dropUndock request _ owed _ own =>
    obtain ⟨rfl, rfl⟩ := Prod.mk.inj (own _ hmem).1
    exact .dropped request owed (own _ hmem).2
  | markMap map _ map_eq _ asked =>
    rw [asked] at hmem
    split at hmem
    · obtain ⟨rfl, rfl⟩ := Prod.mk.inj (List.mem_singleton.mp hmem)
      exact .map map map_eq
    · exact absurd hmem List.not_mem_nil
  | acceptMap map _ _ owed map_eq _ _ asked =>
    rw [asked] at hmem
    split at hmem
    · obtain ⟨rfl, rfl⟩ := Prod.mk.inj (List.mem_singleton.mp hmem)
      exact .map map map_eq
    · exact absurd hmem List.not_mem_nil
  | aside _ _ _ _ _ _ silent => exact hsilent silent
  | send _ _ _ _ _ quiet => exact hsilent quiet.cancels
  | adopt _ _ _ _ _ silent _ => exact hsilent silent
  | finish _ _ _ _ silent _ => exact hsilent silent
  | claim _ _ _ _ _ _ silent _ => exact hsilent silent
  | sendUndock _ _ _ _ quiet => exact hsilent quiet.cancels
  | declineUndock _ _ _ _ _ _ _ silent _ => exact hsilent silent
  | acceptUndock _ _ _ _ _ _ _ _ quiet => exact hsilent quiet.cancels
  | endUndock _ _ _ _ _ _ silent _ => exact hsilent silent
  | claimUndock _ _ _ _ _ _ silent _ => exact hsilent silent
  | sendMap _ _ _ _ _ quiet => exact hsilent quiet.cancels
  | refuseMap _ _ _ _ _ silent => exact hsilent silent
  | abandonMap _ _ _ _ _ silent => exact hsilent silent
  | endMap _ _ _ _ _ silent => exact hsilent silent
  | _ => exact hsilent rfl

theorem Act.undockRequests_subset (h : Act event g emits g') :
    g'.undockRequests ⊆ g.undockRequests ∨ ∃ request,
      g'.undockRequests = request :: g.undockRequests ∧ request.request = g.nextRequest ∧
      request.generation = g'.generation ∧ g'.nextRequest = g.nextRequest + 1 := by
  cases h with
  | sendUndock => exact .inr ⟨_, rfl, rfl, rfl, rfl⟩
  | dropUndock => exact .inl List.erase_subset
  | declineUndock => exact .inl List.erase_subset
  | acceptUndock => exact .inl List.erase_subset
  | _ => exact .inl (List.Subset.refl _)

theorem Act.mapRequests_subset (h : Act event g emits g') :
    g'.mapRequests ⊆ g.mapRequests ∨ g'.mapRequests = g.nextRequest :: g.mapRequests ∧
      g'.nextRequest = g.nextRequest + 1 := by
  cases h with
  | sendMap _ _ owed =>
    cases owed with
    | false => exact .inl (List.Subset.refl _)
    | true => exact .inr ⟨rfl, rfl⟩
  | dropMap => exact .inl List.erase_subset
  | refuseMap => exact .inl List.erase_subset
  | acceptMap => exact .inl List.erase_subset
  | _ => exact .inl (List.Subset.refl _)

theorem Act.destinations_subset (h : Act event g emits g') :
    g'.destinations ⊆ g.destinations ∨ ∃ id,
      g'.destinations ⊆ (g.nextRequest, id) :: g.destinations ∧
      g'.nextRequest = g.nextRequest + 1 := by
  have hslot : ∀ {active : RunningGoal}, g.active = some active →
      (active.request, active.commandId) ∈ g.destinations := by
    intro active hactive
    refine List.mem_append_right _ ?_
    simp [hactive]
  cases h with
  | send request _ _ number _ _ =>
    refine .inr ⟨request.commandId, ?_, rfl⟩
    rw [← number]
    exact List.Subset.refl _
  | turnDown request =>
    left
    intro destination hmem
    simp only [Goals.destinations, List.mem_append] at hmem ⊢
    refine hmem.imp_left (Or.imp_left fun hmem => ?_)
    exact List.map_subset _ List.erase_subset hmem
  | adopt request _ owed =>
    left
    intro destination hmem
    simp only [Goals.destinations, List.mem_append] at hmem ⊢
    rcases hmem with (hmem | hmem) | hmem
    · exact .inl (.inl (List.map_subset _ List.erase_subset hmem))
    · exact .inl (.inr hmem)
    · obtain rfl : destination = (request.request, request.commandId) := by simpa using hmem
      exact .inl (.inl (List.mem_map_of_mem (f := fun request =>
        (request.request, request.commandId)) owed))
  | awaitResult active active_eq =>
    left
    intro destination hmem
    simp only [Goals.destinations, List.mem_append, List.mem_cons] at hmem
    rcases hmem with (hmem | rfl | hmem) | hmem
    · exact List.mem_append_left _ (List.mem_append_left _ hmem)
    · exact hslot active_eq
    · exact List.mem_append_left _ (List.mem_append_right _ hmem)
    · exact List.mem_append_right _ hmem
  | takeResult owed =>
    left
    intro destination hmem
    simp only [Goals.destinations, List.mem_append] at hmem ⊢
    exact hmem.imp_left (Or.imp_right fun hmem => List.erase_subset hmem)
  | finish =>
    left
    intro destination hmem
    refine List.mem_append_left _ ?_
    simpa [Goals.destinations] using hmem
  | attach active id active_eq =>
    left
    intro destination hmem
    simpa [Goals.destinations, active_eq] using hmem
  | claim active id _ active_eq =>
    left
    intro destination hmem
    simpa [Goals.destinations, active_eq] using hmem
  | _ => exact .inl (List.Subset.refl _)

theorem Act.named (h : Act event g emits g') (hg : g.Named) : g'.Named := by
  rcases h.destinations_subset with hsubset | ⟨id, hsubset, hnext⟩
  · exact ⟨fun destination hmem => (hg.given _ (hsubset hmem)).trans_le h.nextRequest_le,
      fun destination hmem other hother => hg.command _ (hsubset hmem) _ (hsubset hother)⟩
  · have hgiven : ∀ destination ∈ g.destinations, destination.1 ≠ g.nextRequest :=
      fun destination hmem => (hg.given destination hmem).ne
    constructor
    · intro destination hmem
      rw [hnext]
      rcases List.mem_cons.mp (hsubset hmem) with rfl | hmem
      · exact Nat.lt_succ_self _
      · exact (hg.given destination hmem).trans (Nat.lt_succ_self _)
    · intro destination hmem other hother heq
      rcases List.mem_cons.mp (hsubset hmem) with rfl | hmem
      · rcases List.mem_cons.mp (hsubset hother) with rfl | hother
        · rfl
        · exact absurd heq.symm (hgiven other hother)
      · rcases List.mem_cons.mp (hsubset hother) with rfl | hother
        · exact absurd heq (hgiven destination hmem)
        · exact hg.command destination hmem other hother heq

theorem Act.generation_le (h : Act event g emits g') : g.generation ≤ g'.generation := by
  cases h with
  | disable => exact Nat.le_succ _
  | _ => exact le_rfl

/-- The undock in the slot was there, or was just sent. -/
theorem Act.undock_request (h : Act event g emits g') {undock : RunningUndock}
    (hundock : g'.undock = some undock) :
    (∃ before, g.undock = some before ∧ before.request = undock.request ∧
      (before.accepted = true → undock.accepted = true)) ∨
      undock.request = g.nextRequest ∧ g'.nextRequest = g.nextRequest + 1 := by
  cases h with
  | sendUndock =>
    obtain rfl := Option.some.inj hundock
    exact .inr ⟨rfl, rfl⟩
  | declineUndock => cases hundock
  | endUndock => cases hundock
  | acceptUndock _ before _ _ _ _ undock_eq =>
    obtain rfl := Option.some.inj hundock
    exact .inl ⟨before, undock_eq, rfl, fun _ => rfl⟩
  | markUndock before undock_eq =>
    obtain rfl := Option.some.inj hundock
    exact .inl ⟨before, undock_eq, rfl, id⟩
  | attachUndock before _ undock_eq =>
    obtain rfl := Option.some.inj hundock
    exact .inl ⟨before, undock_eq, rfl, id⟩
  | claimUndock before _ _ undock_eq =>
    obtain rfl := Option.some.inj hundock
    exact .inl ⟨before, undock_eq, rfl, id⟩
  | _ => exact .inl ⟨undock, hundock, rfl, id⟩

theorem Act.map_request (h : Act event g emits g') {map : ActiveMap} (hmap : g'.map = some map) :
    (∃ before, g.map = some before ∧ before.request = map.request) ∨
      map.request = g.nextRequest ∧ g'.nextRequest = g.nextRequest + 1 := by
  cases h with
  | sendMap =>
    obtain rfl := Option.some.inj hmap
    exact .inr ⟨rfl, rfl⟩
  | markMap before _ map_eq =>
    obtain rfl := Option.some.inj hmap
    exact .inl ⟨before, map_eq, rfl⟩
  | acceptMap before _ _ _ map_eq =>
    obtain rfl := Option.some.inj hmap
    exact .inl ⟨before, map_eq, rfl⟩
  | refuseMap => cases hmap
  | abandonMap => cases hmap
  | endMap => cases hmap
  | _ => exact .inl ⟨map, hmap, rfl⟩

theorem Act.numbered (h : Act event g emits g') (hg : g.Numbered) : g'.Numbered := by
  have hle := h.nextRequest_le
  constructor
  · intro undock hundock
    rcases h.undock_request hundock with ⟨before, hbefore, heq, -⟩ | ⟨hnumber, hnext⟩
    · exact heq ▸ (hg.undock before hbefore).trans_le hle
    · omega
  · intro map hmap
    rcases h.map_request hmap with ⟨before, hbefore, heq⟩ | ⟨hnumber, hnext⟩
    · exact heq ▸ (hg.map before hbefore).trans_le hle
    · omega
  · intro request hmem
    rcases h.navRequests_subset with hsubset | ⟨sent, hcons, hnumber, -, hnext⟩
    · exact (hg.navRequests request (hsubset hmem)).trans_le hle
    · rw [hcons] at hmem
      rcases List.mem_cons.mp hmem with rfl | hmem
      · omega
      · exact (hg.navRequests request hmem).trans_le hle
  · intro request hmem
    rcases h.undockRequests_subset with hsubset | ⟨sent, hcons, hnumber, -, hnext⟩
    · exact (hg.undockRequests request (hsubset hmem)).trans_le hle
    · rw [hcons] at hmem
      rcases List.mem_cons.mp hmem with rfl | hmem
      · omega
      · exact (hg.undockRequests request hmem).trans_le hle
  · intro request hmem
    rcases h.mapRequests_subset with hsubset | ⟨hcons, hnext⟩
    · exact (hg.mapRequests request (hsubset hmem)).trans_le hle
    · rw [hcons] at hmem
      rcases List.mem_cons.mp hmem with rfl | hmem
      · omega
      · exact (hg.mapRequests request hmem).trans_le hle

theorem Act.dated (h : Act event g emits g') (hg : g.Dated) : g'.Dated := by
  have hle := h.generation_le
  constructor
  · intro request hmem
    rcases h.navRequests_subset with hsubset | ⟨sent, hcons, -, hdated, -⟩
    · exact (hg.navRequests request (hsubset hmem)).trans hle
    · rw [hcons] at hmem
      rcases List.mem_cons.mp hmem with rfl | hmem
      · exact hdated.le
      · exact (hg.navRequests request hmem).trans hle
  · intro request hmem
    rcases h.undockRequests_subset with hsubset | ⟨sent, hcons, -, hdated, -⟩
    · exact (hg.undockRequests request (hsubset hmem)).trans hle
    · rw [hcons] at hmem
      rcases List.mem_cons.mp hmem with rfl | hmem
      · exact hdated.le
      · exact (hg.undockRequests request hmem).trans hle

end

/-! ### Runs -/

namespace Executor

variable (config : ExecutorConfig)

/-- What every update keeps holds in every state of a run. -/
theorem goals_run {P : Goals → Prop}
    (hP : ∀ {event g emits g'}, Act event g emits g' → P g → P g')
    (init : P ({} : Executor).goals) (events : List (ExecutorEvent × ClientAnswers)) :
    P ((commandExecutor config).run {} events).goals :=
  (commandExecutor config).invariant (fun s => P s.goals)
    (fun s event _ h => (step_acts config s event).keeps hP h) init
    ((commandExecutor config).along_true {} events)

theorem undockLedger_run (events : List (ExecutorEvent × ClientAnswers)) :
    UndockLedger ((commandExecutor config).run {} events).goals.undock
      ((commandExecutor config).run {} events).goals.undockRequests
      ((commandExecutor config).run {} events).goals.undockResults :=
  goals_run config (P := fun g => UndockLedger g.undock g.undockRequests g.undockResults)
    Act.undockLedger .idle events

theorem numbered_goals_run (events : List (ExecutorEvent × ClientAnswers)) :
    ((commandExecutor config).run {} events).goals.Numbered :=
  goals_run config (P := Goals.Numbered) Act.numbered
    ⟨by simp [goals], by simp [goals], by simp [goals], by simp [goals], by simp [goals]⟩ events

theorem named_run (events : List (ExecutorEvent × ClientAnswers)) :
    ((commandExecutor config).run {} events).goals.Named :=
  goals_run config (P := Goals.Named) Act.named
    ⟨by simp [goals, Goals.destinations], by simp [goals, Goals.destinations]⟩ events

theorem dated_goals_run (events : List (ExecutorEvent × ClientAnswers)) :
    ((commandExecutor config).run {} events).goals.Dated :=
  goals_run config (P := Goals.Dated) Act.dated ⟨by simp [goals], by simp [goals]⟩ events

end Executor

end PatrolBot
