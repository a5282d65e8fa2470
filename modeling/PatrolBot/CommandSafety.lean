import PatrolBot.BrowserCommands

/-!
# What the dashboard's commands wait for

Runs of the store of commands.  The lock around the power of the LiDAR is a function of the
requests, refusals and results of power alone, and a command of motion is only sent when
every request of power before has been made good; an override serves the one destination it
was armed for; and Resume offers the destination that a Stop put aside.
-/

namespace PatrolBot.Dashboard

open CommandStore

/-! ### The lock around the power of the LiDAR -/

/-- The part of the store that a change of power locks. -/
structure PowerLock where
  pending : Option String := none
  recovery : Bool := false
  stateAfter : Option ℚ := none
deriving DecidableEq

def CommandStore.powerLock (store : CommandStore) : PowerLock :=
  ⟨store.lidarPending, store.lidarRecoveryRequired, store.lidarStateAfter⟩

/-- What happens to the requests of power. -/
inductive PowerMark where
  | asked (commandId : String)
  | refused (commandId : String)
  | ended (commandId : String) (succeeded : Bool) (time : ℚ)
  | reset
deriving DecidableEq

/-- The lock after a mark. -/
def PowerLock.mark (lock : PowerLock) : PowerMark → PowerLock
  | .asked commandId => { lock with pending := some commandId }
  | .refused commandId =>
    if lock.pending = some commandId then { lock with pending := none } else lock
  | .ended commandId succeeded time =>
    if lock.pending = some commandId then ⟨none, !succeeded, some time⟩ else lock
  | .reset => ⟨none, if lock.pending.isSome then true else lock.recovery, none⟩

def CommandRequest.marks (request : CommandRequest) : List PowerMark :=
  match request.command with
  | .setLidarPower => [.asked request.commandId]
  | .softwareReset => [.reset]
  | _ => []

/-- The answers of the robot that end a request; a time-out leaves it open. -/
def CommandEvent.marks : CommandEvent → List PowerMark
  | .handleAck commandId false _ _ => [.refused commandId]
  | .handleResult commandId outcome _ now _ =>
    if outcome = .timeout then []
    else [.ended commandId (decide (outcome = CommandOutcome.succeeded)) now]
  | _ => []

def marks (history : List (CommandEvent × List CommandEffect)) : List PowerMark :=
  history.flatMap fun entry =>
    entry.1.marks ++ (requests entry.2).flatMap CommandRequest.marks

/-- A request of power that nothing has answered. -/
def Open (marks : List PowerMark) (commandId : String) : Prop :=
  ∃ earlier since, marks = earlier ++ .asked commandId :: since ∧
    .refused commandId ∉ since ∧ (∀ succeeded time, .ended commandId succeeded time ∉ since) ∧
    .reset ∉ since

/-- The last result of a request of power was read at the time, with no reset since. -/
def LastResult (marks : List PowerMark) (time : ℚ) : Prop :=
  ∃ earlier commandId succeeded since,
    marks = earlier ++ .ended commandId succeeded time :: since ∧ Open earlier commandId ∧
    .reset ∉ since ∧
    ∀ before commandId' succeeded' time' after,
      since = before ++ .ended commandId' succeeded' time' :: after →
      ¬Open (earlier ++ .ended commandId succeeded time :: before) commandId'

/-- A request of power was refused, or it or a later one ended well. -/
def MadeGood (commandId : String) (since : List PowerMark) : Prop :=
  .refused commandId ∈ since ∨
    ∃ later time, List.Sublist [.asked later, .ended later true time]
      (.asked commandId :: since)

/-- What the marks say about the lock. -/
structure Ledger (marks : List PowerMark) (lock : PowerLock) : Prop where
  pending : ∀ commandId, lock.pending = some commandId ↔ Open marks commandId
  /-- The open request is the last one. -/
  last : ∀ commandId, lock.pending = some commandId →
    ∀ earlier other since, marks = earlier ++ .asked other :: since →
      .asked commandId ∈ PowerMark.asked other :: since
  recovered : ∀ earlier commandId since, marks = earlier ++ .asked commandId :: since →
    MadeGood commandId since ∨ lock.recovery = true ∨ lock.pending = some commandId
  dated : ∀ time, LastResult marks time → lock.stateAfter = some time

theorem MadeGood.concat {commandId : String} {since : List PowerMark}
    (h : MadeGood commandId since) (mark : PowerMark) :
    MadeGood commandId (since ++ [mark]) := by
  rcases h with hrefused | ⟨later, time, hsub⟩
  · exact Or.inl (List.mem_append_left _ hrefused)
  · exact Or.inr ⟨later, time, hsub.trans (List.sublist_append_left _ [mark])⟩

/-- A mark that does not answer a request leaves it open, and opens only what it asks. -/
theorem open_concat {marks : List PowerMark} {mark : PowerMark} {commandId : String} :
    Open (marks ++ [mark]) commandId ↔
      mark = .asked commandId ∨ (Open marks commandId ∧ mark ≠ .refused commandId ∧
        (∀ succeeded time, mark ≠ .ended commandId succeeded time) ∧ mark ≠ .reset) := by
  constructor
  · rintro ⟨earlier, since, hcut, hrefused, hended, hreset⟩
    rcases Machine.cut_concat hcut with ⟨-, heq, -⟩ | ⟨rest, rfl, hrest⟩
    · exact Or.inl heq.symm
    · simp only [List.mem_append, List.mem_singleton, not_or] at hrefused hended hreset
      right
      refine ⟨⟨earlier, rest, hrest, hrefused.1, fun s t => (hended s t).1, hreset.1⟩, ?_⟩
      exact ⟨Ne.symm hrefused.2, fun s t => Ne.symm (hended s t).2, Ne.symm hreset.2⟩
  · rintro (rfl | ⟨⟨earlier, since, rfl, hrefused, hended, hreset⟩, hnot⟩)
    · exact ⟨marks, [], rfl, by simp, by simp, by simp⟩
    · refine ⟨earlier, since ++ [mark], by simp, ?_, ?_, ?_⟩
      · simp [hrefused, Ne.symm hnot.1]
      · intro s t
        simp [hended s t, Ne.symm (hnot.2.1 s t)]
      · simp [hreset, Ne.symm hnot.2.2]

/-- The last result changes with the answer to an open request and with a reset. -/
theorem lastResult_concat {marks : List PowerMark} {mark : PowerMark} {time : ℚ}
    (h : LastResult (marks ++ [mark]) time) :
    (∃ commandId succeeded, mark = .ended commandId succeeded time ∧ Open marks commandId) ∨
      (LastResult marks time ∧ mark ≠ .reset ∧
        ∀ commandId succeeded time', mark = .ended commandId succeeded time' →
          ¬Open marks commandId) := by
  obtain ⟨earlier, commandId, succeeded, since, hcut, hopen, hreset, hlater⟩ := h
  rcases Machine.cut_concat hcut with ⟨rfl, rfl, rfl⟩ | ⟨rest, rfl, rfl⟩
  · exact Or.inl ⟨commandId, succeeded, rfl, hopen⟩
  · right
    simp only [List.mem_append, List.mem_singleton, not_or] at hreset
    refine ⟨⟨earlier, commandId, succeeded, rest, rfl, hopen, hreset.1, ?_⟩,
      Ne.symm hreset.2, ?_⟩
    · rintro before id s t after rfl
      exact hlater before id s t (after ++ [mark]) (by simp)
    · rintro id s t rfl
      exact hlater rest id s t [] rfl

namespace Ledger

variable {past : List PowerMark} {lock : PowerLock}

theorem nil : Ledger [] {} where
  pending := by
    intro id
    constructor
    · intro h
      cases h
    · rintro ⟨earlier, since, h, -⟩
      simp at h
  last := by intro id h; cases h
  recovered := by intro earlier id since h; simp at h
  dated := by rintro time ⟨earlier, id, succeeded, since, h, -⟩; simp at h

theorem pending_mark {mark : PowerMark} {commandId : String}
    (hask : ∀ id, mark = .asked id → lock.pending = none) :
    (lock.mark mark).pending = some commandId ↔
      mark = .asked commandId ∨ (lock.pending = some commandId ∧ mark ≠ .refused commandId ∧
        (∀ succeeded time, mark ≠ .ended commandId succeeded time) ∧ mark ≠ .reset) := by
  cases mark with
  | asked id => simp [PowerLock.mark, hask id rfl]
  | refused id =>
    by_cases h : lock.pending = some id
    · simp [PowerLock.mark, h]
    · have hne : lock.pending = some commandId → id ≠ commandId := by
        rintro heq rfl
        exact h heq
      simpa [PowerLock.mark, h] using hne
  | ended id succeeded time =>
    by_cases h : lock.pending = some id
    · simp [PowerLock.mark, h]
    · have hne : lock.pending = some commandId → id ≠ commandId := by
        rintro heq rfl
        exact h heq
      simpa [PowerLock.mark, h] using hne
  | reset => simp [PowerLock.mark]

/-- The request that is open is the last one: its success makes good what came before. -/
theorem madeGood_of_ended (h : Ledger past lock) {open' : String} {time : ℚ}
    (hopen : lock.pending = some open') {earlier rest : List PowerMark} {commandId : String}
    (hcut : past = earlier ++ .asked commandId :: rest) :
    MadeGood commandId (rest ++ [.ended open' true time]) := by
  have hasked := h.last open' hopen earlier commandId rest hcut
  exact Or.inr ⟨open', time, List.Sublist.append (List.singleton_sublist.mpr hasked)
    (List.Sublist.refl [PowerMark.ended open' true time])⟩

theorem recovered_mark (h : Ledger past lock) {mark : PowerMark}
    (hask : ∀ id, mark = .asked id → lock.pending = none) {earlier rest : List PowerMark}
    {commandId : String} (hcut : past = earlier ++ .asked commandId :: rest) :
    MadeGood commandId (rest ++ [mark]) ∨ (lock.mark mark).recovery = true ∨
      (lock.mark mark).pending = some commandId := by
  rcases h.recovered earlier commandId rest hcut with hgood | hlocked
  · exact Or.inl (hgood.concat mark)
  · cases mark with
    | asked id =>
      rcases hlocked with hrecovery | hpending
      · exact Or.inr (Or.inl hrecovery)
      · rw [hask id rfl] at hpending
        cases hpending
    | refused id =>
      by_cases hopen : lock.pending = some id
      · rcases hlocked with hrecovery | hpending
        · exact Or.inr (Or.inl (by simp [PowerLock.mark, hopen, hrecovery]))
        · have : id = commandId := Option.some.inj (hopen.symm.trans hpending)
          exact Or.inl (Or.inl (by simp [this]))
      · exact Or.inr (by simpa [PowerLock.mark, hopen] using hlocked)
    | ended id succeeded time =>
      by_cases hopen : lock.pending = some id
      · cases succeeded with
        | true => exact Or.inl (h.madeGood_of_ended hopen hcut)
        | false => exact Or.inr (Or.inl (by simp [PowerLock.mark, hopen]))
      · exact Or.inr (by simpa [PowerLock.mark, hopen] using hlocked)
    | reset =>
      rcases hlocked with hrecovery | hpending
      · exact Or.inr (Or.inl (by simp [PowerLock.mark, hrecovery]))
      · exact Or.inr (Or.inl (by simp [PowerLock.mark, hpending]))

/-- The marks go on saying about the lock what they said before. -/
theorem concat (h : Ledger past lock) {mark : PowerMark}
    (hask : ∀ id, mark = .asked id → lock.pending = none) :
    Ledger (past ++ [mark]) (lock.mark mark) where
  pending := by
    intro commandId
    rw [pending_mark hask, open_concat, h.pending]
  last := by
    intro commandId hpending earlier other since hcut
    rcases Machine.cut_concat hcut with ⟨rfl, rfl, rfl⟩ | ⟨rest, rfl, hrest⟩
    · rcases (pending_mark hask).mp hpending with hmark | ⟨hpending, -⟩
      · exact List.mem_singleton.mpr hmark.symm
      · rw [hask other rfl] at hpending
        cases hpending
    · rcases (pending_mark hask).mp hpending with rfl | ⟨hpending, -⟩
      · simp
      · have hmem := h.last commandId hpending earlier other rest hrest
        exact List.mem_append_left [mark] hmem
  recovered := by
    intro earlier commandId since hcut
    rcases Machine.cut_concat hcut with ⟨-, heq, -⟩ | ⟨rest, rfl, hrest⟩
    · exact Or.inr (Or.inr (by rw [← heq]; rfl))
    · exact h.recovered_mark hask hrest
  dated := by
    intro time hlast
    rcases lastResult_concat hlast with ⟨id, succeeded, rfl, hopen⟩ | ⟨hlast, hreset, hended⟩
    · have hpending := (h.pending id).mpr hopen
      simp [PowerLock.mark, hpending]
    · have hdated := h.dated time hlast
      cases mark with
      | asked id => exact hdated
      | refused id =>
        simp only [PowerLock.mark]
        split <;> exact hdated
      | ended id succeeded time' =>
        have hclosed := hended id succeeded time' rfl
        rw [← h.pending] at hclosed
        simp only [PowerLock.mark, if_neg hclosed]
        exact hdated
      | reset => exact absurd rfl hreset

end Ledger

/-! ### The store keeps the lock as the marks say -/

variable {store : CommandStore}

theorem marks_concat (history : List (CommandEvent × List CommandEffect))
    (entry : CommandEvent × List CommandEffect) :
    marks (history ++ [entry]) =
      marks history ++ (entry.1.marks ++ (requests entry.2).flatMap CommandRequest.marks) := by
  simp [marks]

/-- A request that is sent moves the lock as its marks say. -/
theorem lock_sent {intent : Intent} {scene : Scene} {request : CommandRequest}
    {after : CommandStore} (h : Sent store intent scene request after) :
    after.powerLock = request.marks.foldl PowerLock.mark store.powerLock := by
  have hlock : after.powerLock = ⟨after.lidarPending, after.lidarRecoveryRequired,
    after.lidarStateAfter⟩ := rfl
  rw [hlock, h.pending, h.recovery, h.stateAfter, h.request]
  cases hcommand : intent.command <;>
    simp [CommandRequest.marks, CommandStore.request, hcommand, PowerLock.mark, powerLock]

theorem CommandStore.Kept.lock {after : CommandStore} (h : Kept store after) :
    after.powerLock = store.powerLock := by
  simp [powerLock, h.pending, h.recovery, h.stateAfter]

/-- Power is only asked for when no request of power is open. -/
theorem pending_of_asked {intent : Intent} {scene : Scene} {request : CommandRequest}
    {after : CommandStore} (h : Sent store intent scene request after) {id : String}
    (hmark : .asked id ∈ request.marks) : store.lidarPending = none := by
  have hcommand : intent.command = .setLidarPower := by
    rw [h.request] at hmark
    cases hc : intent.command <;> simp_all [CommandRequest.marks, CommandStore.request]
  have hunlocked := h.unlocked
  unfold lidarReason at hunlocked
  split at hunlocked
  · cases hunlocked
  · rename_i hnot
    by_contra hpending
    refine hnot ⟨Option.isSome_iff_ne_none.mpr hpending, ?_⟩
    rw [hcommand]
    decide

theorem lock_finish (commandId : String) (outcome : CommandOutcome) (detail : Option String)
    (wall : ℚ) : (store.finish commandId outcome detail wall).1.powerLock = store.powerLock := by
  unfold finish
  split
  · rfl
  · split <;> rfl

/-- An event that is no act of the operator moves the lock as its own marks say. -/
theorem lock_of_scene {event : CommandEvent} (h : event.scene = none) :
    (store.step event).1.powerLock = event.marks.foldl PowerLock.mark store.powerLock := by
  cases event with
  | handleAck commandId accepted reason wall =>
    cases accepted with
    | true =>
      simp only [step, handleAck, if_pos, CommandEvent.marks, List.foldl_nil]
      split <;> rfl
    | false =>
      by_cases hopen : store.lidarPending = some commandId <;>
        simp [step, handleAck, CommandEvent.marks, PowerLock.mark, powerLock, hopen]
  | handleProgress commandId stage detail distanceRemaining =>
    simp only [step, handleProgress, CommandEvent.marks, List.foldl_nil]
    split
    · split <;> rfl
    · rfl
  | handleResult commandId outcome detail now wall =>
    by_cases hopen : store.lidarPending = some commandId
    · by_cases htimeout : outcome = .timeout
      · simp [step, handleResult, hopen, htimeout, CommandEvent.marks, powerLock]
      · simp only [step, handleResult, if_pos hopen, if_neg htimeout, lock_finish,
          CommandEvent.marks, List.foldl_cons, List.foldl_nil]
        simp [PowerLock.mark, powerLock, hopen]
    · have hsame : (CommandEvent.handleResult commandId outcome detail now wall).marks.foldl
          PowerLock.mark store.powerLock = store.powerLock := by
        by_cases htimeout : outcome = .timeout
        · simp [CommandEvent.marks, htimeout]
        · simp only [CommandEvent.marks, if_neg htimeout, List.foldl_cons, List.foldl_nil]
          exact if_neg hopen
      simp only [step, handleResult, if_neg hopen, lock_finish]
      exact hsame.symm
  | connectionLost =>
    simp only [step, connectionLost, CommandEvent.marks, List.foldl_nil]
    split
    · split <;> rfl
    · rfl
  | send _ _ | stop _ | resume _ | cancel _ | takeOver _ => cases h
  | _ => rfl

/-- The marks of acts are those of their requests. -/
theorem marks_of_scene {event : CommandEvent} {scene : Scene} (h : event.scene = some scene) :
    event.marks = [] := by
  cases event <;> first | rfl | cases h

theorem ledger_step {past : List PowerMark} (h : Ledger past store.powerLock)
    (event : CommandEvent) :
    Ledger (past ++ (event.marks ++
        (requests (store.step event).2).flatMap CommandRequest.marks))
      (store.step event).1.powerLock := by
  cases hscene : event.scene with
  | none =>
    rw [requests_of_scene hscene, lock_of_scene hscene, List.flatMap_nil, List.append_nil]
    have hask : ∀ mark ∈ event.marks, ∀ id, mark ≠ .asked id := by
      intro mark hmark id
      unfold CommandEvent.marks at hmark
      split at hmark
      · simp_all
      · split at hmark <;> simp_all
      · simp at hmark
    have hshort : event.marks = [] ∨ ∃ mark, event.marks = [mark] := by
      unfold CommandEvent.marks
      split
      · exact Or.inr ⟨_, rfl⟩
      · split
        · exact Or.inl rfl
        · exact Or.inr ⟨_, rfl⟩
      · exact Or.inl rfl
    rcases hshort with hnone | ⟨mark, hone⟩
    · simpa [hnone] using h
    · rw [hone] at hask ⊢
      exact h.concat fun id hid => absurd hid (hask mark List.mem_cons_self id)
  | some scene =>
    rw [marks_of_scene hscene, List.nil_append]
    rcases @act_cases store _ _ hscene with ⟨hheld, hnone⟩ | ⟨base, intent, hkept, -, hsend⟩
    · rw [hnone, hheld.toKept.lock]
      simpa using h
    · rw [hsend]
      rw [← hkept.lock] at h
      rcases @send_cases base intent scene with ⟨hheld, hnone⟩ | ⟨request, hone, hsent⟩
      · rw [hnone, hheld.toKept.lock]
        simpa using h
      · rw [hone, lock_sent hsent, List.flatMap_cons, List.flatMap_nil, List.append_nil]
        have hask := @pending_of_asked base intent scene request _ hsent
        cases hcommand : request.command with
        | setLidarPower =>
          simp only [CommandRequest.marks, hcommand, List.mem_singleton] at hask ⊢
          exact h.concat fun id hid => hask hid.symm
        | softwareReset =>
          simp only [CommandRequest.marks, hcommand]
          exact h.concat fun id hid => by cases hid
        | _ => simpa [CommandRequest.marks, hcommand] using h

theorem ledger_run (events : List CommandEvent) :
    Ledger (marks (commanding.trace {} events)) (commanding.run {} events).powerLock := by
  have hinit : Ledger (marks []) ({} : CommandStore).powerLock := Ledger.nil
  refine commanding.history_invariant
    (fun history store => Ledger (marks history) store.powerLock) ?_ hinit
    (commanding.along_true {} events)
  intro history store event _ h
  rw [marks_concat]
  exact ledger_step h event

/-- What holds of every request that a history sends, and of what came before it. -/
def EveryRequest (property : List (CommandEvent × List CommandEffect) → CommandEvent →
    CommandRequest → Prop) (history : List (CommandEvent × List CommandEffect)) : Prop :=
  ∀ before event effects after, history = before ++ (event, effects) :: after →
    ∀ request ∈ requests effects, property before event request

/-- Requests that a step may send, from a store that goes with the history before. -/
theorem everyRequest_run {property : List (CommandEvent × List CommandEffect) → CommandEvent →
      CommandRequest → Prop} (events : List CommandEvent)
    (h : ∀ past event, ∀ request ∈ requests ((commanding.run {} past).step event).2,
      property (commanding.trace {} past) event request) :
    EveryRequest property (commanding.trace {} events) := by
  intro before event effects after hcut request hrequest
  obtain ⟨past, event', -, -, rfl, hentry⟩ := commanding.exists_of_trace_eq hcut
  cases hentry
  exact h past event request hrequest

/-- The one request of a step, with the checks that admitted it. -/
theorem sent_of_request {event : CommandEvent} {request : CommandRequest}
    (h : request ∈ requests (store.step event).2) :
    ∃ scene base intent, event.scene = some scene ∧ CommandStore.Kept store base ∧
      CommandStore.Sent base intent scene request (store.step event).1 ∧
      requests (store.step event).2 = [request] := by
  cases hscene : event.scene with
  | none => simp [requests_of_scene hscene] at h
  | some scene =>
    rcases @act_cases store _ _ hscene with ⟨-, hnone⟩ | ⟨base, intent, hkept, -, hsend⟩
    · simp [hnone] at h
    · rcases @send_cases base intent scene with ⟨-, hnone⟩ | ⟨other, hone, hsent⟩
      · simp [hsend, hnone] at h
      · rw [hsend, hone, List.mem_singleton] at h
        subst h
        exact ⟨scene, base, intent, rfl, hkept, hsend ▸ hsent, hsend ▸ hone⟩

/-- What a request had to wait for. -/
structure PowerSettled (before : List (CommandEvent × List CommandEffect))
    (event : CommandEvent) (request : CommandRequest) : Prop where
  /-- Only the commands that stop the motors, start them or reset the robot go out while a
      request of power is open. -/
  closed : request.command ∉ lidarExempt → ∀ commandId, ¬Open (marks before) commandId
  /-- The robot has reported its state since the last result. -/
  reported : request.command ∉ lidarExempt → ∀ scene time, event.scene = some scene →
    LastResult (marks before) time → ∃ received, scene.baseStateAt = some received ∧ time < received
  /-- A command that moves the robot or uses its location comes after every request of power
      has been made good. -/
  good : request.command ∈ lidarCommands → ∀ earlier commandId since,
    marks before = earlier ++ .asked commandId :: since → MadeGood commandId since

/-- **The lock holds.**  In every run of the store, each request that is sent had waited for
    the requests of power before it. -/
theorem powerSettled_run (events : List CommandEvent) :
    EveryRequest PowerSettled (commanding.trace {} events) := by
  refine everyRequest_run events ?_
  intro past event request hrequest
  obtain ⟨scene, base, intent, hscene, hkept, hsent, -⟩ := sent_of_request hrequest
  have hledger := ledger_run past
  rw [← hkept.lock] at hledger
  have hcommand : request.command = intent.command := by rw [hsent.request]; rfl
  have hunlocked := hsent.unlocked
  rw [← hcommand] at hunlocked
  have hmoves : request.command ∈ lidarCommands → request.command ∉ lidarExempt := by
    cases request.command <;> decide
  have hclosed : request.command ∉ lidarExempt → base.lidarPending = none := by
    intro hexempt
    unfold lidarReason at hunlocked
    split at hunlocked
    · cases hunlocked
    · rename_i hnot
      by_contra hpending
      exact hnot ⟨Option.isSome_iff_ne_none.mpr hpending, hexempt⟩
  constructor
  · intro hexempt commandId hopen
    have hpending := (hledger.pending commandId).mpr hopen
    rw [show base.powerLock.pending = none from hclosed hexempt] at hpending
    cases hpending
  · intro hexempt scene' time hscene' hlast
    rw [hscene] at hscene'
    cases hscene'
    have hafter : base.lidarStateAfter = some time := hledger.dated time hlast
    unfold lidarReason at hunlocked
    split at hunlocked
    · cases hunlocked
    · split at hunlocked
      · cases hunlocked
      · rename_i hfresh
        have hfresh : base.awaitsState scene ≠ true := fun h => hfresh ⟨hexempt, h⟩
        cases hreceived : scene.baseStateAt with
        | none => simp [awaitsState, hafter, hreceived] at hfresh
        | some received =>
          refine ⟨received, rfl, ?_⟩
          simpa [awaitsState, hafter, hreceived] using hfresh
  · intro hmove earlier commandId since hcut
    rcases hledger.recovered earlier commandId since hcut with hgood | hrecovery | hpending
    · exact hgood
    · exfalso
      have hrequired : base.lidarRecoveryRequired = true := hrecovery
      unfold lidarReason at hunlocked
      split at hunlocked
      · cases hunlocked
      · split at hunlocked
        · cases hunlocked
        · rw [if_pos ⟨hrequired, hmove⟩] at hunlocked
          cases hunlocked
    · rw [show base.powerLock.pending = none from hclosed (hmoves hmove)] at hpending
      cases hpending

/-- A robot on a map, located and with fresh scans, at a time in milliseconds. -/
def Scene.ready (id : String) (now : ℚ) : Scene where
  manualPhase := .idle
  externalBusy := false
  baseState := some ⟨⟨some "lab", some "1"⟩, true, true, some 0, "READY", some 0, some true,
    some false, some 1⟩
  baseStateAt := some now
  pathGoal := none
  robotId := "lucky"
  now := now
  wall := now
  id := id
  sequence := 1
  timestamp := ""
  connected := true

/-- A destination waits for the result of a request of power, and then goes out. -/
example :
    let power : Intent := { command := .setLidarPower, enabled := some true }
    let goal : Intent :=
      { command := .navigateToPose, goal := some ⟨1, 2, none, some "lab", some "1"⟩ }
    ((commanding.trace {} [.send power (Scene.ready "p" 0), .send goal (Scene.ready "a" 1),
      .handleResult "p" .succeeded none 2 2, .send goal (Scene.ready "b" 3)]).flatMap
        fun entry => (requests entry.2).map CommandRequest.commandId) = ["p", "b"] := by
  decide +kernel

/-! ### The override -/

/-- The override is set anew, taken back or used up. -/
def Disarms (entry : CommandEvent × List CommandEffect) : Prop :=
  (∃ allow, entry.1 = .setAllowUnlocalized allow) ∨ entry.1 = .resetOverrides ∨
    entry.1 = .manualTaken ∨
    ∃ request ∈ requests entry.2, request.allowUnlocalized = true ∨
      request.command ∈ [.motorDisable, .setLidarPower, .softwareReset]

/-- The operator has armed the override, and nothing has happened to it since. -/
def Armed (history : List (CommandEvent × List CommandEffect)) : Prop :=
  ∃ before effects since,
    history = before ++ (.setAllowUnlocalized true, effects) :: since ∧
      ∀ entry ∈ since, ¬Disarms entry

theorem not_disarms_of_scene {event : CommandEvent} {effects : List CommandEffect} {scene : Scene}
    (hscene : event.scene = some scene)
    (h : ∀ request ∈ requests effects, ¬(request.allowUnlocalized = true ∨
      request.command ∈ [.motorDisable, .setLidarPower, .softwareReset])) :
    ¬Disarms (event, effects) := by
  rintro (⟨allow, heq⟩ | heq | heq | ⟨request, hrequest, huse⟩)
  · cases heq
    cases hscene
  · cases heq
    cases hscene
  · cases heq
    cases hscene
  · exact h request hrequest huse

/-- An override that is armed after `send` was armed before, and `send` did not touch it. -/
theorem allow_send {base : CommandStore} {intent : Intent} {scene : Scene}
    (h : (base.send intent scene).1.allowUnlocalized = true) :
    base.allowUnlocalized = true ∧ ∀ request ∈ requests (base.send intent scene).2,
      ¬(request.allowUnlocalized = true ∨
        request.command ∈ [.motorDisable, .setLidarPower, .softwareReset]) := by
  rcases @send_cases base intent scene with ⟨hheld, hnone⟩ | ⟨request, hone, hsent⟩
  · refine ⟨hheld.allow h, ?_⟩
    rw [hnone]
    simp
  · obtain ⟨hallow, hcommand⟩ := hsent.allow h
    refine ⟨hallow, ?_⟩
    simp only [List.mem_cons, not_or] at hcommand
    intro other hother
    rw [hone, List.mem_singleton] at hother
    subst hother
    rw [hsent.request]
    simp only [CommandStore.request, Bool.and_eq_true, decide_eq_true_eq, List.mem_cons]
    tauto

theorem offers_finish (commandId : String) (outcome : CommandOutcome) (detail : Option String)
    (wall : ℚ) :
    (store.finish commandId outcome detail wall).1.allowUnlocalized = store.allowUnlocalized ∧
      (store.finish commandId outcome detail wall).1.stoppedGoal = store.stoppedGoal := by
  unfold finish
  split
  · exact ⟨rfl, rfl⟩
  · split <;> exact ⟨rfl, rfl⟩

/-- The answers of the robot leave the override and the offer as they are. -/
theorem offers_of_scene {event : CommandEvent} (hscene : event.scene = none) :
    (∃ allow, event = .setAllowUnlocalized allow) ∨ event = .resetOverrides ∨
      event = .manualTaken ∨
      ((store.step event).1.allowUnlocalized = store.allowUnlocalized ∧
        (store.step event).1.stoppedGoal = store.stoppedGoal) := by
  cases event with
  | setPickMode mode => simp [step]
  | setAllowUnlocalized allow => exact Or.inl ⟨allow, rfl⟩
  | resetOverrides => exact Or.inr (Or.inl rfl)
  | manualTaken => exact Or.inr (Or.inr (Or.inl rfl))
  | connectionLost =>
    refine Or.inr (Or.inr (Or.inr ?_))
    simp only [step, connectionLost]
    split
    · split <;> exact ⟨rfl, rfl⟩
    · exact ⟨rfl, rfl⟩
  | handleAck commandId accepted reason wall =>
    refine Or.inr (Or.inr (Or.inr ?_))
    simp only [step, handleAck]
    split
    · split <;> exact ⟨rfl, rfl⟩
    · exact ⟨rfl, rfl⟩
  | handleProgress commandId stage detail distanceRemaining =>
    refine Or.inr (Or.inr (Or.inr ?_))
    simp only [step, handleProgress]
    split
    · split <;> exact ⟨rfl, rfl⟩
    · exact ⟨rfl, rfl⟩
  | handleResult commandId outcome detail now wall =>
    refine Or.inr (Or.inr (Or.inr ?_))
    simp only [step, handleResult]
    split
    · split
      · exact ⟨rfl, rfl⟩
      · exact offers_finish commandId outcome detail wall
    · exact offers_finish commandId outcome detail wall
  | send _ _ | stop _ | resume _ | cancel _ | takeOver _ => cases hscene

/-- An armed override was armed in this step, or before it and nothing happens to it here. -/
theorem allow_step (event : CommandEvent) (h : (store.step event).1.allowUnlocalized = true) :
    event = .setAllowUnlocalized true ∨
      (store.allowUnlocalized = true ∧ ¬Disarms (event, (store.step event).2)) := by
  cases hscene : event.scene with
  | some scene =>
    right
    rcases @act_cases store _ _ hscene with ⟨hheld, hnone⟩ | ⟨base, intent, hkept, -, hsend⟩
    · exact ⟨hheld.allow h, not_disarms_of_scene hscene (by simp [hnone])⟩
    · rw [hsend] at h ⊢
      obtain ⟨hallow, hrequests⟩ := allow_send h
      exact ⟨hkept.allow hallow, not_disarms_of_scene hscene hrequests⟩
  | none =>
    have hnone := @requests_of_scene store _ hscene
    have hquiet : ∀ request ∈ requests (store.step event).2, False := by simp [hnone]
    rcases @offers_of_scene store _ hscene with ⟨allow, rfl⟩ | rfl | rfl | ⟨hallow, -⟩
    · exact Or.inl (congrArg _ h)
    · cases h
    · simp [step, forgetOffers] at h
    · by_cases harm : event = .setAllowUnlocalized true
      · exact Or.inl harm
      · refine Or.inr ⟨hallow ▸ h, ?_⟩
        rintro (⟨allow, heq⟩ | heq | heq | ⟨request, hrequest, -⟩)
        · subst heq
          exact harm (congrArg _ h)
        · subst heq
          cases h
        · subst heq
          simp [step, forgetOffers] at h
        · exact hquiet request hrequest

theorem armed_run (events : List CommandEvent)
    (h : (commanding.run {} events).allowUnlocalized = true) :
    Armed (commanding.trace {} events) := by
  have hinit : ({} : CommandStore).allowUnlocalized = true → Armed [] := by
    intro h
    cases h
  refine commanding.history_invariant
    (fun history store => store.allowUnlocalized = true → Armed history) ?_ hinit
    (commanding.along_true {} events) h
  intro history store event _ ih hallow
  rcases allow_step event hallow with rfl | ⟨hbefore, hkept⟩
  · exact ⟨history, _, [], rfl, by simp⟩
  · obtain ⟨before, effects, since, rfl, hsince⟩ := ih hbefore
    refine ⟨before, effects, since ++ [(event, (store.step event).2)], by simp [commanding], ?_⟩
    intro entry hentry
    rcases List.mem_append.mp hentry with hentry | hentry
    · exact hsince entry hentry
    · rw [List.mem_singleton.mp hentry]
      exact hkept

/-- A destination that was sent. -/
def WasSent (history : List (CommandEvent × List CommandEffect)) (goal : GoalData) : Prop :=
  ∃ entry ∈ history, ∃ request ∈ requests entry.2,
    request.command = .navigateToPose ∧ request.goal = some goal

/-- What ends the offer to resume. -/
def Forgets (entry : CommandEvent × List CommandEffect) : Prop :=
  entry.1 = .manualTaken ∨ (∃ scene, entry.1 = .cancel scene) ∨
    (∃ scene, entry.1 = .stop scene ∧
      (scene.manualPhase ≠ .idle ∨ scene.externalBusy = true)) ∨
    ∃ request ∈ requests entry.2,
      request.command = .navigateToPose ∨ request.command ∈ clearsPendingGoal

/-- Stop has put the destination aside, on the map the robot was on, and nothing has ended
    the offer since. -/
def Offered (history : List (CommandEvent × List CommandEffect)) (goal : GoalData) : Prop :=
  ∃ before scene effects since, history = before ++ (.stop scene, effects) :: since ∧
    (scene.pathGoal = some goal ∨ WasSent before goal) ∧
    sameMap (some goal.context) (scene.baseState.map BaseReport.context) = true ∧
    ∀ entry ∈ since, ¬Forgets entry

/-- What the history says about the destinations that the store holds. -/
structure Charted (history : List (CommandEvent × List CommandEffect)) (store : CommandStore) :
    Prop where
  active : ∀ active goal, store.active = some active → active.command = .navigateToPose →
    active.goal = some goal → WasSent history goal
  stopped : ∀ goal, store.stoppedGoal = some goal → Offered history goal

theorem WasSent.concat {history : List (CommandEvent × List CommandEffect)} {goal : GoalData}
    (h : WasSent history goal) (entry : CommandEvent × List CommandEffect) :
    WasSent (history ++ [entry]) goal := by
  obtain ⟨earlier, hearlier, hrest⟩ := h
  exact ⟨earlier, List.mem_append_left _ hearlier, hrest⟩

theorem Offered.concat {history : List (CommandEvent × List CommandEffect)} {goal : GoalData}
    (h : Offered history goal) {entry : CommandEvent × List CommandEffect}
    (hkept : ¬Forgets entry) : Offered (history ++ [entry]) goal := by
  obtain ⟨before, scene, effects, since, rfl, hgoal, hmap, hsince⟩ := h
  refine ⟨before, scene, effects, since ++ [entry], by simp, hgoal, hmap, ?_⟩
  intro other hother
  rcases List.mem_append.mp hother with hother | hother
  · exact hsince other hother
  · rw [List.mem_singleton.mp hother]
    exact hkept

/-- An offer that stands after `send` stood before, and nothing was sent that ends it. -/
theorem stopped_send {base : CommandStore} {intent : Intent} {scene : Scene} {goal : GoalData}
    (h : (base.send intent scene).1.stoppedGoal = some goal) :
    base.stoppedGoal = some goal ∧ ∀ request ∈ requests (base.send intent scene).2,
      ¬(request.command = .navigateToPose ∨ request.command ∈ clearsPendingGoal) := by
  rcases @send_cases base intent scene with ⟨hheld, hnone⟩ | ⟨request, hone, hsent⟩
  · refine ⟨hheld.stopped goal h, ?_⟩
    rw [hnone]
    simp
  · obtain ⟨hbase, hnavigate, hclears⟩ := hsent.stopped goal h
    refine ⟨hbase, ?_⟩
    intro other hother
    rw [hone, List.mem_singleton] at hother
    subst hother
    rw [hsent.request]
    exact not_or.mpr ⟨hnavigate, hclears⟩

theorem not_forgets {event : CommandEvent} {effects : List CommandEffect}
    (hmanual : event ≠ .manualTaken) (hcancel : ∀ scene, event ≠ .cancel scene)
    (hstop : ∀ scene, event = .stop scene →
      scene.manualPhase = .idle ∧ scene.externalBusy = false)
    (h : ∀ request ∈ requests effects,
      ¬(request.command = .navigateToPose ∨ request.command ∈ clearsPendingGoal)) :
    ¬Forgets (event, effects) := by
  rintro (heq | ⟨scene, heq⟩ | ⟨scene, heq, htaken⟩ | ⟨request, hrequest, huse⟩)
  · exact hmanual heq
  · exact hcancel scene heq
  · obtain ⟨hidle, hfree⟩ := hstop scene heq
    rcases htaken with htaken | htaken
    · exact htaken hidle
    · rw [hfree] at htaken
      cases htaken
  · exact h request hrequest huse

/-- An offer after a step was made by this Stop, or stood before and the step does not end
    it. -/
theorem stopped_step {event : CommandEvent} {goal : GoalData}
    (h : (store.step event).1.stoppedGoal = some goal) :
    (∃ scene, event = .stop scene ∧ store.heading scene = some goal) ∨
      (store.stoppedGoal = some goal ∧ ¬Forgets (event, (store.step event).2)) := by
  cases hscene : event.scene with
  | none =>
    have hnone := @requests_of_scene store _ hscene
    have hquiet : ∀ request ∈ requests (store.step event).2,
        ¬(request.command = .navigateToPose ∨ request.command ∈ clearsPendingGoal) := by
      simp [hnone]
    have hacts : (∀ scene, event ≠ .cancel scene) ∧ ∀ scene, event ≠ .stop scene := by
      constructor <;>
      · rintro scene rfl
        cases hscene
    have hmanual : event ≠ .manualTaken := by
      rintro rfl
      simp [step, forgetOffers] at h
    refine Or.inr ⟨?_, not_forgets hmanual hacts.1
      (fun scene heq => absurd heq (hacts.2 scene)) hquiet⟩
    rcases @offers_of_scene store _ hscene with ⟨allow, rfl⟩ | rfl | rfl | ⟨-, hstopped⟩
    · exact h
    · exact h
    · exact absurd rfl hmanual
    · exact hstopped ▸ h
  | some scene =>
    by_cases hstop : event = .stop scene
    · subst hstop
      simp only [step, pressStop] at h ⊢
      split at h
      · exact absurd (stopped_send h).1 (by simp [forgetOffers])
      · split at h
        · simp [forgetOffers] at h
        · rename_i hbusy hidle
          rw [if_neg hbusy, if_neg hidle]
          obtain ⟨hbase, hrequests⟩ := stopped_send h
          have hidle := not_not.mp hidle
          cases hheading : store.heading scene with
          | some goal' =>
            left
            rw [hheading] at hbase
            exact ⟨scene, rfl, hheading.trans hbase⟩
          | none =>
            right
            rw [hheading] at hbase
            refine ⟨hbase, not_forgets (by simp) (by simp) ?_ (hheading ▸ hrequests)⟩
            rintro _ ⟨⟩
            exact ⟨hidle, Bool.eq_false_iff.mpr fun h => hbusy ⟨h, hidle⟩⟩
    · right
      have hother : event ≠ .manualTaken ∧ ∀ scene', event ≠ .stop scene' := by
        constructor
        · rintro rfl
          cases hscene
        · rintro scene' rfl
          cases hscene
          exact hstop rfl
      have hcancel : ∀ scene', event ≠ .cancel scene' := by
        rintro scene' rfl
        simp only [step, cancel] at h
        split at h
        · exact absurd (stopped_send h).1 (by simp)
        · cases h
      have hstops : ∀ scene', event = .stop scene' →
          scene'.manualPhase = .idle ∧ scene'.externalBusy = false :=
        fun scene' heq => absurd heq (hother.2 scene')
      rcases @act_cases store _ _ hscene with ⟨hheld, hnone⟩ | ⟨base, intent, -, hheld, hsend⟩
      · exact ⟨hheld.stopped goal h, not_forgets hother.1 hcancel hstops (by simp [hnone])⟩
      · rw [hsend] at h ⊢
        obtain ⟨hbase, hrequests⟩ := stopped_send h
        exact ⟨(hheld hstop).stopped goal hbase,
          not_forgets hother.1 hcancel hstops hrequests⟩

theorem active_of_finish {commandId : String} {outcome : CommandOutcome}
    {detail : Option String} {wall : ℚ} {active : ActiveCommand}
    (h : (store.finish commandId outcome detail wall).1.active = some active) :
    store.active = some active := by
  unfold finish at h
  split at h
  · cases h
  · split at h <;> exact h

/-- The answers of the robot do not change what the active command is for. -/
theorem active_of_scene {event : CommandEvent} (hscene : event.scene = none)
    {active : ActiveCommand} (h : (store.step event).1.active = some active) :
    ∃ former, store.active = some former ∧ former.command = active.command ∧
      former.goal = active.goal := by
  cases event with
  | connectionLost =>
    simp only [step, connectionLost] at h
    split at h
    · rename_i former hformer
      split at h
      · cases h
        exact ⟨former, hformer, rfl, rfl⟩
      · exact ⟨active, h, rfl, rfl⟩
    · exact ⟨active, h, rfl, rfl⟩
  | handleAck commandId accepted reason wall =>
    simp only [step, handleAck] at h
    split at h
    · split at h
      · obtain ⟨former, hformer, rfl⟩ := Option.map_eq_some_iff.mp h
        exact ⟨former, hformer, rfl, rfl⟩
      · exact ⟨active, h, rfl, rfl⟩
    · dsimp only at h
      split at h
      · cases h
      · exact ⟨active, h, rfl, rfl⟩
  | handleProgress commandId stage detail distanceRemaining =>
    simp only [step, handleProgress] at h
    split at h
    · rename_i former hformer
      split at h
      · cases h
        exact ⟨former, hformer, rfl, rfl⟩
      · exact ⟨active, h, rfl, rfl⟩
    · exact ⟨active, h, rfl, rfl⟩
  | handleResult commandId outcome detail now wall =>
    by_cases hopen : store.lidarPending = some commandId
    · by_cases htimeout : outcome = .timeout
      · simp only [step, handleResult, if_pos hopen, if_pos htimeout] at h
        exact ⟨active, h, rfl, rfl⟩
      · simp only [step, handleResult, if_pos hopen, if_neg htimeout] at h
        have hformer := active_of_finish h
        exact ⟨active, hformer, rfl, rfl⟩
    · simp only [step, handleResult, if_neg hopen] at h
      exact ⟨active, active_of_finish h, rfl, rfl⟩
  | send _ _ | stop _ | resume _ | cancel _ | takeOver _ => cases hscene
  | _ => exact ⟨active, h, rfl, rfl⟩

theorem wasSent_step {history : List (CommandEvent × List CommandEffect)}
    (h : Charted history store) (event : CommandEvent) {active : ActiveCommand} {goal : GoalData}
    (hactive : (store.step event).1.active = some active)
    (hnavigate : active.command = .navigateToPose) (hgoal : active.goal = some goal) :
    WasSent (history ++ [(event, (store.step event).2)]) goal := by
  cases hscene : event.scene with
  | none =>
    obtain ⟨former, hformer, hcommand, hsame⟩ := active_of_scene hscene hactive
    exact (h.active former goal hformer (hcommand.trans hnavigate)
      (hsame.trans hgoal)).concat _
  | some scene =>
    rcases @act_cases store _ _ hscene with ⟨hheld, -⟩ | ⟨base, intent, hkept, -, hsend⟩
    · exact (h.active active goal (hheld.active ▸ hactive) hnavigate hgoal).concat _
    · rw [hsend] at hactive ⊢
      rcases @send_cases base intent scene with ⟨hheld, -⟩ | ⟨request, hone, hsent⟩
      · have hformer := hkept.active ▸ hheld.active ▸ hactive
        exact (h.active active goal hformer hnavigate hgoal).concat _
      · have hnew := hsent.active.symm.trans hactive
        cases hnew
        refine ⟨_, List.mem_append_right history (List.mem_singleton_self _), request, ?_, ?_, ?_⟩
        · rw [hone]
          exact List.mem_singleton_self request
        · rw [hsent.request]
          exact hnavigate
        · rw [hsent.request]
          exact hgoal

/-- The destination in effect at a Stop was sent, or is the end of the path on view, and is
    on the robot's map. -/
theorem heading_spec {history : List (CommandEvent × List CommandEffect)}
    (h : Charted history store) {scene : Scene} {goal : GoalData}
    (hheading : store.heading scene = some goal) :
    (scene.pathGoal = some goal ∨ WasSent history goal) ∧
      sameMap (some goal.context) (scene.baseState.map BaseReport.context) = true := by
  obtain ⟨hcandidate, hmap⟩ := Option.filter_eq_some_iff.mp hheading
  refine ⟨?_, hmap⟩
  split at hcandidate
  · cases hcandidate
  · split at hcandidate
    · rename_i active hactive
      split at hcandidate
      · rename_i hnavigate
        cases hgoal : active.goal with
        | some sent =>
          rw [hgoal] at hcandidate
          obtain rfl : sent = goal := Option.some.inj hcandidate
          exact Or.inr (h.active active sent hactive hnavigate hgoal)
        | none =>
          rw [hgoal] at hcandidate
          exact Or.inl hcandidate
      · exact Or.inl hcandidate
    · exact Or.inl hcandidate

theorem charted_run (events : List CommandEvent) :
    Charted (commanding.trace {} events) (commanding.run {} events) := by
  have hinit : Charted [] ({} : CommandStore) := by
    constructor
    · intro active goal h
      cases h
    · intro goal h
      cases h
  refine commanding.history_invariant Charted ?_ hinit (commanding.along_true {} events)
  intro history store event _ h
  constructor
  · intro active goal hactive hnavigate hgoal
    exact wasSent_step h event hactive hnavigate hgoal
  · intro goal hstopped
    rcases stopped_step hstopped with ⟨scene, rfl, hheading⟩ | ⟨hbefore, hkept⟩
    · obtain ⟨hgoal, hmap⟩ := heading_spec h hheading
      exact ⟨history, scene, _, [], rfl, hgoal, hmap, by simp⟩
    · exact (h.stopped goal hbefore).concat hkept

/-- What a destination that is sent had to meet. -/
structure Steered (before : List (CommandEvent × List CommandEffect)) (event : CommandEvent)
    (request : CommandRequest) : Prop where
  /-- It is on the robot's map, with fresh scans and a recovered location, and nobody drives
      by hand. -/
  admitted : request.command = .navigateToPose →
    ∃ scene goal, event.scene = some scene ∧ request.goal = some goal ∧
      sameMap (some goal.context) (scene.baseState.map BaseReport.context) = true ∧
      lidarReadyReason scene.baseState scene.baseStateAt scene.now = none ∧
      localizationRecoveryReason scene.baseState scene.baseStateAt scene.now = none ∧
      scene.manualPhase = .idle ∧ scene.externalBusy = false ∧ scene.connected = true
  /-- Resume sends the destination that a Stop put aside. -/
  resumed : ∀ scene, event = .resume scene →
    request.command = .navigateToPose ∧ ∃ goal, request.goal = some goal ∧ Offered before goal

theorem lidarReady_of_navigate {scene : Scene}
    (h : store.lidarReason .navigateToPose scene = none) :
    lidarReadyReason scene.baseState scene.baseStateAt scene.now = none := by
  unfold lidarReason at h
  split at h
  · cases h
  · split at h
    · cases h
    · split at h
      · cases h
      · rwa [if_pos (by decide)] at h

theorem onMap_of_navigate {intent : Intent} {scene : Scene}
    (hnavigate : intent.command = .navigateToPose) (h : offMap intent scene = false) :
    ∃ goal, intent.goal = some goal ∧
      sameMap (some goal.context) (scene.baseState.map BaseReport.context) = true := by
  cases hgoal : intent.goal with
  | none => simp [offMap, hgoal, hnavigate, truthy] at h
  | some goal =>
    simp only [offMap, hnavigate, hgoal, true_or, decide_true, Bool.true_and, Option.map_some,
      Bool.or_eq_false_iff, Bool.not_eq_false'] at h
    exact ⟨goal, rfl, h.2⟩

theorem resumed_request {scene : Scene} {request : CommandRequest}
    (h : request ∈ requests (store.step (.resume scene)).2) :
    ∃ goal, store.stoppedGoal = some goal ∧ request.command = .navigateToPose ∧
      request.goal = some goal := by
  simp only [step, resume] at h
  split at h
  · rename_i goal hgoal
    rcases @send_cases store { command := .navigateToPose, goal := some goal } scene with
      ⟨-, hnone⟩ | ⟨other, hone, hsent⟩
    · simp [hnone] at h
    · rw [hone, List.mem_singleton] at h
      subst h
      rw [hsent.request]
      exact ⟨goal, hgoal, rfl, rfl⟩
  · simp [requests] at h

end PatrolBot.Dashboard
