import Mathlib.Data.List.Count
import PatrolBot.ExecutorAccounts

/-!
# The executor and the servers it asks to cancel

An action server takes the cancel requests in the order they were sent, and
answers one for a goal that is already canceling as it answers one for a goal
that has ended: `ERROR_GOAL_TERMINATED`.  `_stop` takes that answer for the
second meaning, which is right as long as no other cancel of the goal was in
flight or taken.  `cancel_pending` records that for a cancel of the browser;
`_motor_disable` and the undock watchdog do not set it.
-/

namespace PatrolBot

/-! ### The servers -/

/-- The states of an accepted goal at its server. -/
inductive GoalPhase where
  | executing
  | canceling
  | terminal
deriving DecidableEq

/-- The executor, the servers and the messages between them. -/
structure CancelWorld where
  executor : Executor := {}
  /-- The cancel requests a server has not taken, each with the reply awaited. -/
  requests : ActionKind → List (Nat × Option CancelReply) := fun _ => []
  phase : ActionKind → Nat → GoalPhase := fun _ _ => .executing
  /-- The replies on their way, each with the goal it is about. -/
  replies : List (CancelReply × (ActionKind × Nat) × CancelResponse) := []

/-- What can happen: an event of the executor, the next cancel request of a
    server, the end of a goal, the delivery of a reply. -/
inductive CancelEvent where
  | bridge (event : ExecutorEvent × ClientAnswers)
  | serve (kind : ActionKind) (takes : Bool)
  | ends (kind : ActionKind) (number : Nat)
  | deliver (index : Nat) (answers : ClientAnswers)

/-- The answer to a cancel request, and what becomes of the goal. -/
def GoalPhase.answer (takes : Bool) : GoalPhase → CancelResponse × GoalPhase
  | .executing => if takes then (⟨true, 0⟩, .canceling) else (⟨false, 1⟩, .executing)
  | .canceling => (⟨false, 3⟩, .canceling)
  | .terminal => (⟨false, 3⟩, .terminal)

/-- The reply that is awaited since the step. -/
def newReply (s s' : Executor) : Option CancelReply :=
  (s'.cancelReplies.diff s.cancelReplies).head?

namespace CancelWorld

variable (config : ExecutorConfig)

/-- An event of the executor; the cancels it sends reach their servers' queues. -/
def bridge (w : CancelWorld) (event : ExecutorEvent × ClientAnswers) :
    CancelWorld × List ExecutorEmit :=
  let result := w.executor.step config event
  ({ w with
      executor := result.1
      requests := fun kind => w.requests kind ++
        ((cancels result.2).filter (·.1 = kind)).map fun cancel =>
          (cancel.2, newReply w.executor result.1) },
    result.2)

/-- One event.  A reply of a server comes by its delivery only. -/
def step (w : CancelWorld) : CancelEvent → CancelWorld × List ExecutorEmit
  | .bridge (.cancelReply _ (.ok _), _) => (w, [])
  | .bridge event => w.bridge config event
  | .serve kind takes =>
    match w.requests kind with
    | [] => (w, [])
    | (number, reply) :: rest =>
      let answer := (w.phase kind number).answer takes
      ({ w with
          requests := Function.update w.requests kind rest
          phase := Function.update w.phase kind
            (Function.update (w.phase kind) number answer.2)
          replies := (reply.map fun reply => (reply, (kind, number), answer.1)).toList ++
            w.replies },
        [])
  | .ends kind number =>
    ({ w with
        phase := Function.update w.phase kind
          (Function.update (w.phase kind) number .terminal) },
      [])
  | .deliver index answers =>
    match w.replies[index]? with
    | none => (w, [])
    | some given =>
      bridge config { w with replies := w.replies.eraseIdx index }
        (.cancelReply given.1 (.ok given.2.2), answers)

end CancelWorld

/-- The executor with its servers as a machine. -/
def cancelMachine (config : ExecutorConfig) : Machine CancelWorld CancelEvent ExecutorEmit where
  step := CancelWorld.step config

/-- A stop is told that the robot had already stopped only after the goal it
    waits for has ended. -/
def TruthfulStops (config : ExecutorConfig) (events : List CancelEvent) : Prop :=
  ∀ before index answers after id kind number,
    events = before ++ .deliver index answers :: after →
    ((cancelMachine config).run {} before).executor.goals.Waits kind number id →
    alreadyStopped id ∈ ((cancelMachine config).step ((cancelMachine config).run {} before)
      (.deliver index answers)).2 →
    ((cancelMachine config).run {} before).phase kind number = .terminal

/-- A stop of a destination that a motor disable is cancelling already. -/
theorem not_truthfulStops_of_disable : ¬ TruthfulStops fullRobot
    [.bridge (readyFrame "go" .navigateToPose), .bridge (.goalResponse 0 .accepted, allReady),
      .bridge (readyFrame "off" .motorDisable), .serve .navigation true,
      .bridge (readyFrame "halt" .stop), .serve .navigation true, .deliver 0 allReady] := by
  intro h
  have hphase := h [.bridge (readyFrame "go" .navigateToPose),
    .bridge (.goalResponse 0 .accepted, allReady), .bridge (readyFrame "off" .motorDisable),
    .serve .navigation true, .bridge (readyFrame "halt" .stop), .serve .navigation true]
    0 allReady [] "halt" .navigation 0 rfl ?_ (by decide +kernel)
  · exact absurd hphase (by decide +kernel)
  · exact ⟨⟨"go", 0, ["halt"]⟩, by decide +kernel, rfl, by decide⟩

/-! ### What an update asks to cancel -/

section

variable {event : ExecutorEvent × ClientAnswers} {g g' : Goals} {emits : List ExecutorEmit}

/-- A cancel is requested for a goal that was sent before. -/
theorem Act.cancels_lt (h : Act event g emits g') (hnumbered : g.Numbered) (hnamed : g.Named)
    {kind : ActionKind} {number : Nat} (hmem : (kind, number) ∈ cancels emits) :
    number < g.nextRequest := by
  cases h.asked hmem with
  | running runs =>
    cases kind with
    | navigation =>
      obtain ⟨active, hslot, rfl⟩ := runs
      exact hnamed.given (active.request, active.commandId)
        (List.mem_append_right _ (by simp [hslot]))
    | undock =>
      obtain ⟨undock, hslot, -, rfl⟩ := runs
      exact hnumbered.undock undock hslot
    | map =>
      obtain ⟨map, hslot, -, rfl⟩ := runs
      exact hnumbered.map map hslot
  | turnedDown request owed => exact hnumbered.navRequests request owed
  | dropped request owed => exact hnumbered.undockRequests request owed
  | map map map_eq => exact hnumbered.map map map_eq

/-- An undock is cancelled once it is accepted. -/
theorem Act.accepted_of_cancels (h : Act event g emits g')
    (hledger : UndockLedger g.undock g.undockRequests g.undockResults) {number : Nat}
    (hmem : (.undock, number) ∈ cancels emits) :
    ∃ undock, g.undock = some undock ∧ undock.accepted = true ∧ undock.request = number := by
  cases h.asked hmem with
  | running runs => exact runs
  | dropped request owed other =>
    -- The request belongs to the undock in the slot.
    generalize hslot : g.undock = slot, hrequests : g.undockRequests = requests,
      g.undockResults = results at hledger
    rw [hrequests] at owed
    cases hledger with
    | asked undock asked _ _ same =>
      obtain rfl := List.mem_singleton.mp owed
      exact absurd same.symm (other undock hslot)
    | _ => exact absurd owed List.not_mem_nil

/-- The numbers and the undock's ledger, which every update keeps. -/
structure Goals.Kept (g : Goals) : Prop where
  numbered : g.Numbered
  named : g.Named
  ledger : UndockLedger g.undock g.undockRequests g.undockResults

theorem Act.kept (h : Act event g emits g') (hg : g.Kept) : g'.Kept :=
  ⟨h.numbered hg.numbered, h.named hg.named, h.undockLedger hg.ledger⟩

/-- What was ever asked to cancel was sent, and is no undock that still waits
    for its acceptance. -/
structure Touches (touched : ActionKind → Nat → Prop) (g : Goals) : Prop where
  below : ∀ kind number, touched kind number → number < g.nextRequest
  accepted : ∀ undock, g.undock = some undock → undock.accepted = false →
    ¬ touched .undock undock.request

theorem Act.touches {touched : ActionKind → Nat → Prop} (h : Act event g emits g')
    (hg : g.Kept) (ht : Touches touched g) :
    Touches (fun kind number => touched kind number ∨ (kind, number) ∈ cancels emits) g' := by
  have hlt : ∀ kind number, touched kind number ∨ (kind, number) ∈ cancels emits →
      number < g.nextRequest := by
    rintro kind number (hold | hnew)
    · exact ht.below kind number hold
    · exact h.cancels_lt hg.numbered hg.named hnew
  refine ⟨fun kind number htouched => (hlt kind number htouched).trans_le h.nextRequest_le, ?_⟩
  intro undock hundock hwaits htouched
  rcases h.undock_request hundock with ⟨before, hbefore, hsame, hkept⟩ | ⟨hnumber, -⟩
  · have hwaited : before.accepted = false := by
      cases haccepted : before.accepted with
      | false => rfl
      | true => exact absurd (hkept haccepted) (by simp [hwaits])
    rcases htouched with hold | hnew
    · exact ht.accepted before hbefore hwaited (hsame ▸ hold)
    · obtain ⟨accepted, hslot, haccepted, -⟩ := h.accepted_of_cancels hg.ledger hnew
      obtain rfl := Option.some.inj (hbefore.symm.trans hslot)
      simp [hwaited] at haccepted
  · exact absurd (hnumber ▸ hlt _ _ htouched) (lt_irrefl _)

theorem Acts.touches {touched : ActionKind → Nat → Prop} (h : Acts event g emits g')
    (hg : g.Kept) (ht : Touches touched g) :
    Touches (fun kind number => touched kind number ∨ (kind, number) ∈ cancels emits) g' := by
  induction h generalizing touched with
  | nil => exact ⟨fun kind number htouched => ht.below kind number (by simpa using htouched),
      fun undock hundock hwaits htouched =>
        ht.accepted undock hundock hwaits (by simpa using htouched)⟩
  | cons first _ ih =>
    have hrest := ih (first.kept hg) (first.touches hg ht)
    simp only [cancels_append, List.mem_append, ← or_assoc]
    exact hrest

/-- The reply of a stop is awaited from its own frame on, or from the acceptance
    of the undock. -/
def Awaitable (event : ExecutorEvent × ClientAnswers) (reply : CancelReply) : Prop :=
  ∀ id, reply = .stop id → Executor.IsStop id event ∨
    ∃ request, event.1 = .undockResponse request .accepted

theorem Act.awaits (h : Act event g emits g') (reply : CancelReply) :
    g'.cancelReplies.count reply ≤ g.cancelReplies.count reply ∨ Awaitable event reply := by
  cases h with
  | await other origin =>
    by_cases heq : other = reply
    · exact .inr (heq ▸ origin)
    · exact .inl (List.count_cons_of_ne heq).le
  | take other => exact .inl ((List.erase_sublist).count_le reply)
  | _ => exact .inl le_rfl

theorem Acts.awaits (h : Acts event g emits g') (reply : CancelReply) :
    g'.cancelReplies.count reply ≤ g.cancelReplies.count reply ∨ Awaitable event reply := by
  induction h with
  | nil => exact .inl le_rfl
  | cons first _ ih =>
    rcases ih with hrest | hrest
    · exact (first.awaits reply).imp_left hrest.trans
    · exact .inr hrest

end

namespace Executor

variable (config : ExecutorConfig) {answers : ClientAnswers}

/-! ### The cancel of a stop -/

theorem count_of_newReply {s s' : Executor} {reply : CancelReply} (h : newReply s s' = some reply) :
    s.cancelReplies.count reply < s'.cancelReplies.count reply := by
  have hmem : reply ∈ s'.cancelReplies.diff s.cancelReplies := List.mem_of_mem_head? h
  have hpos := List.count_pos_iff.mpr hmem
  rw [List.count_diff] at hpos
  omega

theorem awaitable_of_newReply {s : Executor} {event : ExecutorEvent × ClientAnswers}
    {reply : CancelReply} (h : newReply s (s.step config event).1 = some reply) :
    Awaitable event reply :=
  ((step_acts config s event).awaits reply).resolve_left (count_of_newReply h).not_ge

/-- The goal a stop takes hold of. -/
def Target (s : Executor) : ActionKind → Nat → Prop
  | .navigation, number => s.undockActive = none ∧
      ∃ active, s.active = some active ∧ active.request = number
  | .undock, number => ∃ undock, s.undockActive = some undock ∧ undock.request = number
  | .map, _ => False

/-- A stop asks for the cancel of the goal: the executor knows of no other. -/
def AsksFor (s : Executor) : ActionKind → Nat → Prop
  | .navigation, number => s.undockActive = none ∧ ∃ active, s.active = some active ∧
      active.request = number ∧ active.stopCommandIds = [] ∧ active.cancelPending = false
  | .undock, number => ∃ undock, s.undockActive = some undock ∧ undock.request = number ∧
      undock.stopCommandIds = [] ∧ undock.accepted = true
  | .map, _ => False

theorem AsksFor.target {s : Executor} {kind : ActionKind} {number : Nat}
    (h : s.AsksFor kind number) : s.Target kind number := by
  cases kind with
  | navigation =>
    obtain ⟨hundock, active, hactive, hnumber, -⟩ := h
    exact ⟨hundock, active, hactive, hnumber⟩
  | undock =>
    obtain ⟨undock, hundock, hnumber, -⟩ := h
    exact ⟨undock, hundock, hnumber⟩
  | map => exact h.elim

theorem Target.unique {s : Executor} {kind kind' : ActionKind} {number number' : Nat}
    (h : s.Target kind number) (h' : s.Target kind' number') :
    (kind, number) = (kind', number') := by
  cases kind with
  | navigation =>
    obtain ⟨hundock, active, hactive, rfl⟩ := h
    cases kind' with
    | navigation =>
      obtain ⟨-, active', hactive', rfl⟩ := h'
      rw [Option.some.inj (hactive.symm.trans hactive')]
    | undock =>
      obtain ⟨undock, hundock', -⟩ := h'
      exact absurd (hundock.symm.trans hundock') (by simp)
    | map => exact h'.elim
  | undock =>
    obtain ⟨undock, hundock, rfl⟩ := h
    cases kind' with
    | navigation =>
      obtain ⟨hundock', -⟩ := h'
      exact absurd (hundock'.symm.trans hundock) (by simp)
    | undock =>
      obtain ⟨undock', hundock', rfl⟩ := h'
      rw [Option.some.inj (hundock.symm.trans hundock')]
    | map => exact h'.elim
  | map => exact h.elim

theorem cancelReplies_failStop (s : Executor) (id detail : String) :
    (s.failStop id detail).1.cancelReplies = s.cancelReplies := by
  unfold failStop
  split
  · rfl
  · rename_i claimed hclaimed
    unfold claimStop at hclaimed
    split at hclaimed
    · split at hclaimed
      · obtain rfl := Option.some.inj hclaimed
        rfl
      · obtain ⟨undock, -, hclaimed⟩ := Option.bind_eq_some_iff.mp hclaimed
        split at hclaimed
        · obtain rfl := Option.some.inj hclaimed
          rfl
        · simp at hclaimed
    · split at hclaimed
      · obtain rfl := Option.some.inj hclaimed
        rfl
      · simp at hclaimed
    · simp at hclaimed

theorem cancelReplies_checkMapConnection (s : Executor) (cancel : Bool) :
    (s.checkMapConnection answers cancel).1.cancelReplies = s.cancelReplies := by
  unfold checkMapConnection
  split
  · rfl
  · split
    · simp only
      split
      · rfl
      · split <;> rfl
    · rfl

@[simp] theorem cancelReplies_clearNavigationPath (s : Executor) :
    s.clearNavigationPath.1.cancelReplies = s.cancelReplies := by
  unfold clearNavigationPath
  split <;> rfl

/-- The stop's reply is awaited when its cancel is the one that was sent. -/
theorem asks_stop (answers : ClientAnswers) (s : Executor) (id : String) :
    (s.stop answers id).1.cancelReplies = s.cancelReplies ∨
      (s.stop answers id).1.cancelReplies = .stop id :: s.cancelReplies ∧
      ∃ kind number, s.AsksFor kind number ∧
        cancels (s.stop answers id).2 = [(kind, number)] := by
  have hask : ∀ (t : Executor) (kind : ActionKind) (cancel : ExecutorEmit),
      (t.askToStop answers id kind cancel).1.cancelReplies = t.cancelReplies ∨
        t.askToStop answers id kind cancel =
          ({ t with cancelReplies := .stop id :: t.cancelReplies }, [cancel]) := by
    intro t kind cancel
    unfold askToStop
    split
    · exact .inl (cancelReplies_failStop t _ _)
    · exact .inr rfl
  unfold stop
  simp only [andThen]
  split
  · rename_i undock hundock
    split
    · exact .inl rfl
    · rename_i hasks
      rw [not_or] at hasks
      rcases hask { s with undockActive := some { undock with
        cancelRequested := true, stopCommandIds := undock.stopCommandIds ++ [id] } } .undock
        (.cancelUndock undock.request) with hsame | heq
      · exact .inl hsame
      · refine .inr ⟨by rw [heq], .undock, undock.request, ?_, by rw [heq]; rfl⟩
        exact ⟨undock, hundock, rfl, by simpa using hasks.2, by simpa using hasks.1⟩
  · rename_i active hundock hactive
    split
    · exact .inl (cancelReplies_clearNavigationPath _)
    · rename_i hasks
      rcases hask (clearNavigationPath { s with active := some { active with
        cancelRequested := true, pathBlocked := true
        stopCommandIds := active.stopCommandIds ++ [id] } }).1 .navigation
        (.cancelNavigation active.request) with hsame | heq
      · exact .inl (hsame.trans (cancelReplies_clearNavigationPath _))
      · refine .inr ⟨by rw [heq]; simp, .navigation, active.request, ?_, ?_⟩
        · rw [Bool.or_eq_true, not_or] at hasks
          exact ⟨hundock, active, hactive, rfl, by simpa using hasks.1, by simpa using hasks.2⟩
        · rw [heq, cancels_append, cancels_append, (quiet_clearNavigationPath _).cancels]
          rfl
  · exact .inl rfl

/-- A stop waits nowhere but for the goal it takes hold of. -/
theorem waits_stop {s : Executor} {id : String} {kind : ActionKind} {number : Nat}
    (h : (s.stop answers id).1.goals.Waits kind number id)
    (hunused : ∀ kind number, ¬ s.goals.Waits kind number id) : s.Target kind number := by
  have hask : ∀ (t : Executor) (kind' : ActionKind) (cancel : ExecutorEmit),
      (t.askToStop answers id kind' cancel).1.goals.Waits kind number id →
      t.goals.Waits kind number id := by
    intro t kind' cancel hwaits
    unfold askToStop at hwaits
    split at hwaits
    · have hdoes : Does (.mapConnection, allReady) t (t.failStop id
          s!"The robot could not be asked to stop: {answers.error}.") := does_failStop t _ _
      refine (hdoes.waits hwaits).resolve_right ?_
      rintro ⟨call, _, heq, -⟩
      cases heq
    · exact hwaits
  unfold stop at h
  simp only [andThen] at h
  split at h
  · rename_i undock hundock
    have hattached : (goals { s with undockActive := some { undock with
        cancelRequested := true
        stopCommandIds := undock.stopCommandIds ++ [id] } }).Waits kind number id := by
      split at h
      · exact h
      · exact hask _ _ _ h
    cases kind with
    | navigation => exact absurd hattached (hunused .navigation number)
    | undock =>
      obtain ⟨running, hrunning, hnumber, -⟩ := hattached
      obtain rfl := Option.some.inj hrunning
      exact ⟨undock, hundock, hnumber⟩
    | map => exact hattached.elim
  · rename_i active hundock hactive
    have hattached : (goals { s with active := some { active with
        cancelRequested := true, pathBlocked := true
        stopCommandIds := active.stopCommandIds ++ [id] } }).Waits kind number id := by
      rw [← goals_clearNavigationPath]
      split at h
      · exact h
      · exact hask _ _ _ h
    cases kind with
    | navigation =>
      obtain ⟨running, hrunning, hnumber, -⟩ := hattached
      obtain rfl := Option.some.inj hrunning
      exact ⟨hundock, active, hactive, hnumber⟩
    | undock => exact absurd hattached (hunused .undock number)
    | map => exact hattached.elim
  · exact absurd h (hunused kind number)

/-- What the frame of a stop comes to: a refusal, the end of a map localization,
    or `_stop`. -/
theorem handle_stop (answers : ClientAnswers) (s : Executor) {call : HandleCall}
    (hstop : call.request.command = .stop) :
    ((s.handle config answers call).1.goals = s.goals ∧
        (s.handle config answers call).1.cancelReplies = s.cancelReplies) ∨
      (s.handle config answers call).1 = (s.checkMapConnection answers true).1 ∨
      s.handle config answers call = s.stop answers call.request.commandId := by
  have hlog : overrideLog call = [] := by simp [overrideLog, hstop]
  have hdispatch : s.dispatch config answers call = s.stop answers call.request.commandId := by
    simp [dispatch, hstop]
  unfold handle
  simp only [hstop]
  split
  · exact .inl ⟨rfl, rfl⟩
  · unfold gated
    simp only
    split
    · exact .inl ⟨rfl, rfl⟩
    · split
      · right
        left
        unfold stopMap
        simp only
        split <;> rfl
      · split
        · exact .inl ⟨rfl, rfl⟩
        · right
          right
          simp only [hlog, andThen, hdispatch, List.nil_append]

/-- The acceptance of an undock awaits the reply of a stop that waits for it. -/
theorem asks_onUndockEvent {s : Executor} {number : Nat} {id : String}
    (hledger : UndockLedger s.goals.undock s.goals.undockRequests s.goals.undockResults)
    (h : s.cancelReplies.count (.stop id) <
      (s.onUndockEvent config answers number .accepted).1.cancelReplies.count (.stop id)) :
    ∃ undock, s.undockActive = some undock ∧ undock.accepted = false ∧
      id ∈ undock.stopCommandIds ∧
      cancels (s.onUndockEvent config answers number .accepted).2 =
        [(.undock, undock.request)] := by
  have hsame : ∀ t : Executor, t.cancelReplies = s.cancelReplies →
      ¬ s.cancelReplies.count (.stop id) < t.cancelReplies.count (.stop id) := by
    intro t ht
    rw [ht]
    exact lt_irrefl _
  have hfold : ∀ (stops : List String) (result : Executor × List ExecutorEmit),
      (stops.foldl (fun result stop => andThen result fun s =>
        s.failStop stop s!"The robot could not be asked to stop: {answers.error}.")
        result).1.cancelReplies = result.1.cancelReplies := by
    intro stops
    induction stops with
    | nil => exact fun _ => rfl
    | cons stop stops ih =>
      intro result
      exact (ih _).trans (cancelReplies_failStop _ _ _)
  unfold onUndockEvent at h ⊢
  cases hfind : s.undockRequests.find? (·.request = number) with
  | none =>
    simp only [hfind] at h
    exact absurd h (hsame _ rfl)
  | some request =>
    simp only [hfind, onUndockResponse] at h ⊢
    cases hslot : s.undockActive.filter fun undock => undock.commandId = request.commandId with
    | none =>
      simp only [hslot] at h
      exact absurd h (hsame _ rfl)
    | some undock =>
      obtain ⟨hundock, -⟩ := Option.filter_eq_some_iff.mp hslot
      have hwaits : undock.accepted = false := by
        have howed : request ∈ s.goals.undockRequests := List.mem_of_find?_eq_some hfind
        rw [goals_undock hundock] at hledger
        generalize s.goals.undockResults = results at hledger
        generalize s.goals.undockRequests = requests at hledger howed
        cases hledger with
        | asked _ asked waits => exact waits
        | _ => exact absurd howed List.not_mem_nil
      simp only [hslot, andThen] at h ⊢
      split at h
      · exact absurd h (hsame _ rfl)
      · rename_i hraises
        split at h
        · rename_i hcancel
          rw [if_neg hraises, if_pos hcancel]
          unfold cancelAccepted at h ⊢
          split at h
          · exact absurd h (hsame _ (hfold _ _))
          · rename_i hasks
            rw [if_neg hasks]
            refine ⟨undock, hundock, hwaits, ?_, rfl⟩
            cases hstops : undock.stopCommandIds with
            | nil =>
              simp only [hstops] at h
              exact absurd h (hsame _ rfl)
            | cons stop stops =>
              simp only [hstops, List.head?_cons, Option.map_some, Option.toList_some,
                List.cons_append, List.nil_append] at h
              by_cases heq : CancelReply.stop stop = .stop id
              · rw [CancelReply.stop.inj heq]
                exact List.mem_cons_self
              · rw [List.count_cons_of_ne heq] at h
                exact absurd h (lt_irrefl _)
        · exact absurd h (hsame _ rfl)

end Executor

/-! ### The messages in flight -/

namespace CancelWorld

variable (config : ExecutorConfig) {w : CancelWorld}

/-- A cancel of the goal is on its way, or was taken. -/
def Touched (w : CancelWorld) (kind : ActionKind) (number : Nat) : Prop :=
  (∃ reply, (number, reply) ∈ w.requests kind) ∨ w.phase kind number = .canceling

/-- No message and no list mentions the stop. -/
structure Unused (w : CancelWorld) (id : String) : Prop where
  waits : ∀ kind number, ¬ w.executor.goals.Waits kind number id
  requests : ∀ kind number, (number, some (CancelReply.stop id)) ∉ w.requests kind
  replies : ∀ given ∈ w.replies, given.1 ≠ .stop id

/-- A stop comes under an unused id, and asks for a cancel only where no other
    cancel of the goal is on its way or was taken. -/
def AsksAlone (w : CancelWorld) : CancelEvent → Prop
  | .bridge (.handle call, _) => call.request.command = .stop →
      w.Unused call.request.commandId ∧
        ∀ kind number, w.executor.AsksFor kind number → ¬ w.Touched kind number
  | _ => True

/-- What the messages in flight and the states of the goals say of each other. -/
structure Tracked (w : CancelWorld) : Prop where
  kept : w.executor.goals.Kept
  touches : Touches w.Touched w.executor.goals
  /-- The cancel of a stop is the first one of its goal. -/
  first : ∀ kind before number id after,
    w.requests kind = before ++ (number, some (CancelReply.stop id)) :: after →
    (∀ request ∈ before, request.1 ≠ number) ∧ w.phase kind number ≠ .canceling
  /-- A stop that is told its goal has ended is told the truth. -/
  finished : ∀ given ∈ w.replies, ∀ id, given.1 = .stop id →
    cancelVerdict given.2.2 = .finished → w.phase given.2.1.1 given.2.1.2 = .terminal
  single : ∀ id kind number kind' number', w.executor.goals.Waits kind number id →
    w.executor.goals.Waits kind' number' id → (kind', number') = (kind, number)
  /-- Its cancel and the reply are about the goal a stop waits for. -/
  aimed : ∀ id kind number kind' number', w.executor.goals.Waits kind number id →
    (number', some (CancelReply.stop id)) ∈ w.requests kind' → (kind', number') = (kind, number)
  answered : ∀ id kind number, w.executor.goals.Waits kind number id →
    ∀ given ∈ w.replies, given.1 = .stop id → given.2.1 = (kind, number)

theorem tracked_init : ({} : CancelWorld).Tracked where
  kept := ⟨Executor.numbered_goals_run fullRobot [], Executor.named_run fullRobot [], .idle⟩
  touches := ⟨by simp [Touched], by simp [Executor.goals]⟩
  first := by simp
  finished := by simp
  single := by
    intro id kind number kind' number' h
    cases kind <;> simp [Goals.Waits, Executor.goals] at h
  aimed := by simp
  answered := by simp

theorem mem_asked {w : CancelWorld} {event : ExecutorEvent × ClientAnswers} {kind : ActionKind}
    {number : Nat} {reply : Option CancelReply}
    (h : (number, reply) ∈ ((cancels (w.executor.step config event).2).filter (·.1 = kind)).map
      fun cancel => (cancel.2, newReply w.executor (w.executor.step config event).1)) :
    (kind, number) ∈ cancels (w.executor.step config event).2 ∧
      newReply w.executor (w.executor.step config event).1 = reply := by
  obtain ⟨⟨kind', number'⟩, hmem, heq⟩ := List.mem_map.mp h
  obtain ⟨hcancel, hkind⟩ := List.mem_filter.mp hmem
  obtain rfl : kind' = kind := by simpa using hkind
  obtain rfl : number' = number := (Prod.mk.inj heq).1
  exact ⟨hcancel, (Prod.mk.inj heq).2⟩

/-- The guard of an executor event. -/
abbrev Guarded (w : CancelWorld) (event : ExecutorEvent × ClientAnswers) : Prop :=
  w.AsksAlone (.bridge event)

theorem waits_bridge {event : ExecutorEvent × ClientAnswers} {kind : ActionKind} {number : Nat}
    {id : String} (h : (w.bridge config event).1.executor.goals.Waits kind number id) :
    w.executor.goals.Waits kind number id ∨ Executor.IsStop id event :=
  (Executor.step_acts config w.executor event).waits h

/-- The stop of the frame waits for the goal it takes hold of. -/
theorem target_of_isStop {event : ExecutorEvent × ClientAnswers} {kind : ActionKind}
    {number : Nat} {id : String} (hstop : Executor.IsStop id event) (hunused : w.Unused id)
    (h : (w.bridge config event).1.executor.goals.Waits kind number id) :
    w.executor.Target kind number := by
  obtain ⟨call, answers, rfl, hcommand, rfl⟩ := hstop
  have h : (w.executor.handle config answers call).1.goals.Waits kind number
    call.request.commandId := h
  rcases Executor.handle_stop config answers w.executor hcommand
    with ⟨hgoals, -⟩ | hmap | hstop
  · rw [hgoals] at h
    exact absurd h (hunused.waits kind number)
  · rw [hmap] at h
    have hdoes : Executor.Does (.mapConnection, answers) w.executor
        (w.executor.checkMapConnection answers true) :=
      Executor.does_checkMapConnection answers w.executor true
    rcases hdoes.waits h with h | ⟨_, _, heq, -⟩
    · exact absurd h (hunused.waits kind number)
    · cases heq
  · rw [hstop] at h
    exact Executor.waits_stop h hunused.waits

/-- **The cancel of a stop.**  It is the only one of its step, no other cancel of
    the goal is in flight or taken, and the stop waits for that goal. -/
theorem asked_of_newReply {event : ExecutorEvent × ClientAnswers} {id : String}
    (hw : w.Tracked) (hguard : w.Guarded event)
    (h : newReply w.executor (w.executor.step config event).1 = some (.stop id)) :
    ∃ kind number, cancels (w.executor.step config event).2 = [(kind, number)] ∧
      ¬ w.Touched kind number ∧ ∀ kind' number',
        (w.bridge config event).1.executor.goals.Waits kind' number' id →
        (kind', number') = (kind, number) := by
  have hcount := Executor.count_of_newReply h
  rcases Executor.awaitable_of_newReply config h id rfl with hstop | ⟨number, hevent⟩
  · obtain ⟨call, answers, rfl, hcommand, rfl⟩ := hstop
    obtain ⟨hunused, halone⟩ := hguard hcommand
    have hcount : w.executor.cancelReplies.count (.stop call.request.commandId) <
      (w.executor.handle config answers call).1.cancelReplies.count
        (.stop call.request.commandId) := hcount
    rcases Executor.handle_stop config answers w.executor hcommand
      with ⟨-, hsame⟩ | hmap | hstops
    · rw [hsame] at hcount
      exact absurd hcount (lt_irrefl _)
    · rw [hmap, Executor.cancelReplies_checkMapConnection] at hcount
      exact absurd hcount (lt_irrefl _)
    · rw [hstops] at hcount
      rcases Executor.asks_stop answers w.executor call.request.commandId
        with hsame | ⟨-, kind, number, hasks, hcancels⟩
      · rw [hsame] at hcount
        exact absurd hcount (lt_irrefl _)
      · refine ⟨kind, number, ?_, halone kind number hasks, fun kind' number' hwaits => ?_⟩
        · rw [← hcancels, ← hstops]
          rfl
        · exact (target_of_isStop config ⟨call, answers, rfl, hcommand, rfl⟩ hunused
            hwaits).unique hasks.target
  · obtain ⟨event, answers⟩ := event
    obtain rfl : event = .undockResponse number .accepted := hevent
    obtain ⟨undock, hundock, hwaiting, hmem, hcancels⟩ :=
      Executor.asks_onUndockEvent config hw.kept.ledger hcount
    have hslot : w.executor.goals.Waits .undock undock.request id :=
      ⟨undock.running, Executor.goals_undock hundock, rfl, hmem⟩
    refine ⟨.undock, undock.request, hcancels, ?_, fun kind' number' hwaits => ?_⟩
    · exact hw.touches.accepted undock.running (Executor.goals_undock hundock) hwaiting
    · rcases waits_bridge config hwaits with hwaits | ⟨_, _, heq, -⟩
      · exact hw.single id .undock undock.request kind' number' hslot hwaits
      · cases heq

/-- **Step lemma.**  An event of the executor keeps the messages in order. -/
theorem tracked_bridge {event : ExecutorEvent × ClientAnswers} (hw : w.Tracked)
    (hguard : w.Guarded event) : (w.bridge config event).1.Tracked := by
  have hacts := Executor.step_acts config w.executor event
  have hunused : ∀ id, Executor.IsStop id event → w.Unused id := by
    rintro id ⟨call, answers, rfl, hcommand, rfl⟩
    exact (hguard hcommand).1
  constructor
  · exact hacts.keeps Act.kept hw.kept
  · have htouches := hacts.touches hw.kept hw.touches
    have hsub : ∀ kind number, (w.bridge config event).1.Touched kind number →
        w.Touched kind number ∨ (kind, number) ∈ cancels (w.executor.step config event).2 := by
      rintro kind number (⟨reply, hmem⟩ | hphase)
      · rcases List.mem_append.mp hmem with hold | hnew
        · exact .inl (.inl ⟨reply, hold⟩)
        · exact .inr (mem_asked config hnew).1
      · exact .inl (.inr hphase)
    exact ⟨fun kind number h => htouches.below kind number (hsub kind number h),
      fun undock hundock hwaits h => htouches.accepted undock hundock hwaits (hsub _ _ h)⟩
  · intro kind before number id after heq
    rcases List.append_eq_append_iff.mp heq with ⟨more, hbefore, hnew⟩ | ⟨more, hold, hrest⟩
    · -- The entry is new: it is the cancel of a stop.
      have hmem : (number, some (CancelReply.stop id)) ∈
        more ++ (number, some (CancelReply.stop id)) :: after :=
        List.mem_append_right more List.mem_cons_self
      rw [← hnew] at hmem
      obtain ⟨hcancel, hreply⟩ := mem_asked config hmem
      obtain ⟨kind', number', hcancels, huntouched, -⟩ :=
        asked_of_newReply config hw hguard hreply
      rw [hcancels] at hcancel hnew
      obtain ⟨rfl, rfl⟩ := Prod.mk.inj (List.mem_singleton.mp hcancel)
      have hmore : more = [] := by
        have hlength := congrArg List.length hnew
        simp at hlength
        exact List.eq_nil_of_length_eq_zero (by omega)
      rw [hbefore, hmore, List.append_nil]
      refine ⟨fun request hrequest hsame => huntouched (.inl ⟨request.2, ?_⟩),
        fun hphase => huntouched (.inr hphase)⟩
      rw [← hsame]
      exact hrequest
    · cases more with
      | nil =>
        -- The entry is the first of the new ones.
        rw [List.nil_append] at hrest
        have hmem : (number, some (CancelReply.stop id)) ∈
          (number, some (CancelReply.stop id)) :: after := List.mem_cons_self
        rw [hrest] at hmem
        obtain ⟨hcancel, hreply⟩ := mem_asked config hmem
        obtain ⟨kind', number', hcancels, huntouched, -⟩ :=
          asked_of_newReply config hw hguard hreply
        rw [hcancels] at hcancel
        obtain ⟨rfl, rfl⟩ := Prod.mk.inj (List.mem_singleton.mp hcancel)
        rw [List.append_nil] at hold
        rw [← hold]
        refine ⟨fun request hrequest hsame => huntouched (.inl ⟨request.2, ?_⟩),
          fun hphase => huntouched (.inr hphase)⟩
        rw [← hsame]
        exact hrequest
      | cons entry more =>
        obtain ⟨rfl, -⟩ := List.cons.inj hrest
        exact hw.first kind before number id more hold
  · exact hw.finished
  · intro id kind number kind' number' h h'
    rcases waits_bridge config h with hold | hstop
    · rcases waits_bridge config h' with hold' | hstop
      · exact hw.single id kind number kind' number' hold hold'
      · exact absurd hold ((hunused id hstop).waits kind number)
    · exact (target_of_isStop config hstop (hunused id hstop) h').unique
        (target_of_isStop config hstop (hunused id hstop) h)
  · intro id kind number kind' number' h hmem
    rcases List.mem_append.mp hmem with hold | hnew
    · rcases waits_bridge config h with hwaits | hstop
      · exact hw.aimed id kind number kind' number' hwaits hold
      · exact absurd hold ((hunused id hstop).requests kind' number')
    · obtain ⟨hcancel, hreply⟩ := mem_asked config hnew
      obtain ⟨kind₀, number₀, hcancels, -, hwaits⟩ := asked_of_newReply config hw hguard hreply
      rw [hcancels] at hcancel
      rw [List.mem_singleton.mp hcancel, hwaits kind number h]
  · intro id kind number h given hmem hid
    rcases waits_bridge config h with hwaits | hstop
    · exact hw.answered id kind number hwaits given hmem hid
    · exact absurd hid ((hunused id hstop).replies given hmem)

theorem Touches.mono {touched touched' : ActionKind → Nat → Prop} {g : Goals}
    (h : Touches touched g) (hsub : ∀ kind number, touched' kind number → touched kind number) :
    Touches touched' g :=
  ⟨fun kind number ht => h.below kind number (hsub kind number ht),
    fun undock hundock hwaits ht => h.accepted undock hundock hwaits (hsub _ _ ht)⟩

/-- The states of the goals after one of them changed. -/
theorem phase_update (phase : ActionKind → Nat → GoalPhase) (kind kind' : ActionKind)
    (number number' : Nat) (next : GoalPhase) :
    Function.update phase kind (Function.update (phase kind) number next) kind' number' =
      if kind' = kind ∧ number' = number then next else phase kind' number' := by
  by_cases hkind : kind' = kind
  · subst hkind
    by_cases hnumber : number' = number
    · simp [hnumber]
    · simp [hnumber]
  · simp [hkind]

/-- **Step lemma.**  The end of a goal keeps the messages in order. -/
theorem tracked_ends (hw : w.Tracked) (kind : ActionKind) (number : Nat) :
    (w.step config (.ends kind number)).1.Tracked where
  kept := hw.kept
  touches := by
    refine Touches.mono hw.touches ?_
    rintro kind' number' (hmem | hphase)
    · exact .inl hmem
    · simp only [step, phase_update] at hphase
      split at hphase
      · cases hphase
      · exact .inr hphase
  first := by
    intro kind' before number' id after heq
    obtain ⟨hbefore, hphase⟩ := hw.first kind' before number' id after heq
    refine ⟨hbefore, ?_⟩
    simp only [step, phase_update]
    split
    · simp
    · exact hphase
  finished := by
    intro given hmem id hid hverdict
    simp only [step, phase_update]
    split
    · rfl
    · exact hw.finished given hmem id hid hverdict
  single := hw.single
  aimed := hw.aimed
  answered := hw.answered

/-- **Step lemma.**  A server that takes its next request keeps the messages in
    order: the cancel of a stop finds its goal executing or ended. -/
theorem tracked_serve (hw : w.Tracked) (kind : ActionKind) (takes : Bool) :
    (w.step config (.serve kind takes)).1.Tracked := by
  cases hrequests : w.requests kind with
  | nil =>
    simp only [step, hrequests]
    exact hw
  | cons request rest =>
    obtain ⟨number, reply⟩ := request
    simp only [step, hrequests]
    have hold : ∀ kind' number' reply',
        (number', reply') ∈ Function.update w.requests kind rest kind' →
        (number', reply') ∈ w.requests kind' := by
      intro kind' number' reply' hmem
      by_cases hkind : kind' = kind
      · subst hkind
        rw [Function.update_self] at hmem
        rw [hrequests]
        exact List.mem_cons_of_mem _ hmem
      · rwa [Function.update_of_ne hkind] at hmem
    have hhead : (number, reply) ∈ w.requests kind := hrequests ▸ List.mem_cons_self
    -- No canceling goal is asked about by a stop.
    have hstop : ∀ id, reply = some (.stop id) → w.phase kind number ≠ .canceling :=
      fun id hid => (hw.first kind [] number id rest (by rw [hrequests, hid]; rfl)).2
    constructor
    · exact hw.kept
    · refine Touches.mono hw.touches ?_
      rintro kind' number' (⟨reply', hmem⟩ | hphase)
      · exact .inl ⟨reply', hold kind' number' reply' hmem⟩
      · simp only [phase_update] at hphase
        split at hphase
        · rename_i hsame
          obtain ⟨rfl, rfl⟩ := hsame
          exact .inl ⟨reply, hhead⟩
        · exact .inr hphase
    · intro kind' before number' id after heq
      by_cases hkind : kind' = kind
      · subst hkind
        simp only [Function.update_self] at heq
        obtain ⟨hbefore, hphase⟩ := hw.first kind' ((number, reply) :: before) number' id after
          (by rw [hrequests, heq]; rfl)
        have hne : number ≠ number' := hbefore (number, reply) List.mem_cons_self
        refine ⟨fun request hmem => hbefore request (List.mem_cons_of_mem _ hmem), ?_⟩
        simp only [phase_update]
        rw [if_neg fun hsame => hne hsame.2.symm]
        exact hphase
      · simp only [Function.update_of_ne hkind] at heq
        obtain ⟨hbefore, hphase⟩ := hw.first kind' before number' id after heq
        refine ⟨hbefore, ?_⟩
        simp only [phase_update]
        rw [if_neg fun hsame => hkind hsame.1]
        exact hphase
    · intro given hmem id hid hverdict
      simp only [phase_update]
      rcases List.mem_append.mp hmem with hnew | hgiven
      · obtain ⟨reply', hreply, rfl⟩ : ∃ reply', reply = some reply' ∧
            (reply', (kind, number), ((w.phase kind number).answer takes).1) = given := by
          simpa using hnew
        rw [if_pos ⟨rfl, rfl⟩]
        have hnot := hstop id (hreply.trans (congrArg some hid))
        cases hphase : w.phase kind number with
        | executing =>
          simp only [hphase, GoalPhase.answer] at hverdict
          cases takes <;> simp [cancelVerdict] at hverdict
        | canceling => exact absurd hphase hnot
        | terminal => rfl
      · have hterminal := hw.finished given hgiven id hid hverdict
        split
        · rename_i hsame
          rw [← hsame.1, ← hsame.2, hterminal]
          rfl
        · exact hterminal
    · exact hw.single
    · exact fun id kind₁ number₁ kind' number' hwaits hmem =>
        hw.aimed id kind₁ number₁ kind' number' hwaits (hold kind' number' _ hmem)
    · intro id kind' number' hwaits given hmem hid
      rcases List.mem_append.mp hmem with hnew | hgiven
      · obtain ⟨reply', hreply, rfl⟩ : ∃ reply', reply = some reply' ∧
            (reply', (kind, number), ((w.phase kind number).answer takes).1) = given := by
          simpa using hnew
        refine hw.aimed id kind' number' kind number hwaits ?_
        rw [← show reply' = CancelReply.stop id from hid, ← hreply]
        exact hhead
      · exact hw.answered id kind' number' hwaits given hgiven hid

theorem tracked_erased (hw : w.Tracked) (index : Nat) :
    ({ w with replies := w.replies.eraseIdx index } : CancelWorld).Tracked where
  kept := hw.kept
  touches := hw.touches
  first := hw.first
  finished := fun given hmem => hw.finished given (List.eraseIdx_subset hmem)
  single := hw.single
  aimed := hw.aimed
  answered := fun id kind number hwaits given hmem =>
    hw.answered id kind number hwaits given (List.eraseIdx_subset hmem)

theorem tracked_step {event : CancelEvent} (hguard : w.AsksAlone event) (hw : w.Tracked) :
    (w.step config event).1.Tracked := by
  cases event with
  | bridge event =>
    unfold step
    split
    · exact hw
    · rename_i heq
      obtain rfl := CancelEvent.bridge.inj heq
      exact tracked_bridge config hw hguard
    · rename_i heq
      cases heq
    · rename_i heq
      cases heq
    · rename_i heq
      cases heq
  | serve kind takes => exact tracked_serve config hw kind takes
  | ends kind number => exact tracked_ends config hw kind number
  | deliver index answers =>
    simp only [step]
    split
    · exact hw
    · exact tracked_bridge config (tracked_erased hw index) trivial

theorem resultIds_onNavigationCancelResponse (s : Executor) (request : Nat)
    (response : Except String CancelResponse) :
    resultIds (s.onNavigationCancelResponse request response).2 = [] := by
  unfold Executor.onNavigationCancelResponse
  split
  · rfl
  · split
    · rfl
    · simp only
      split
      · split <;> rfl
      · rfl

/-- The report is the answer to the stop's own cancel. -/
theorem stop_of_alreadyStopped {s : Executor} {reply : CancelReply} {response : CancelResponse}
    {answers : ClientAnswers} {id : String}
    (h : alreadyStopped id ∈ (s.step config (.cancelReply reply (.ok response), answers)).2) :
    reply = .stop id ∧ cancelVerdict response = .finished := by
  simp only [Executor.step, Executor.onCancelReply] at h
  split at h
  · cases reply with
    | navigation request =>
      have hid := mem_resultIds_of_alreadyStopped h
      rw [resultIds_onNavigationCancelResponse] at hid
      exact absurd hid List.not_mem_nil
    | stop commandId =>
      simp only [Executor.onCancelResponse] at h
      split at h
      · exact absurd h List.not_mem_nil
      · rename_i hverdict
        split at h
        · simp [alreadyStopped] at h
          exact ⟨by rw [h], hverdict⟩
        · exact absurd h List.not_mem_nil
      · unfold Executor.failStop at h
        split at h
        · exact absurd h List.not_mem_nil
        · simp [alreadyStopped] at h
  · exact absurd h List.not_mem_nil

end CancelWorld

/-- **Truthful stops.**  In every run in which each stop comes under an unused id
    and asks only for goals without another cancel in flight or taken, no stop is
    told that the robot had already stopped before its goal has ended. -/
theorem truthfulStops_run (config : ExecutorConfig) (events : List CancelEvent)
    (halong : (cancelMachine config).Along CancelWorld.AsksAlone {} events) :
    TruthfulStops config events := by
  rintro before index answers after id kind number rfl hwaits hreport
  rw [Machine.along_append] at halong
  have htracked : ((cancelMachine config).run {} before).Tracked :=
    (cancelMachine config).invariant CancelWorld.Tracked
      (fun _ _ hguard hw => CancelWorld.tracked_step config hguard hw)
      CancelWorld.tracked_init halong.1
  generalize (cancelMachine config).run {} before = w at *
  simp only [cancelMachine, CancelWorld.step] at hreport
  split at hreport
  · exact absurd hreport List.not_mem_nil
  · rename_i given hgiven
    have hmem : given ∈ w.replies := List.mem_of_getElem? hgiven
    obtain ⟨hid, hverdict⟩ := CancelWorld.stop_of_alreadyStopped config hreport
    have hgoal := htracked.answered id kind number hwaits given hmem hid
    have hterminal := htracked.finished given hmem id hid hverdict
    rwa [hgoal] at hterminal

/-- A stop of a destination that nothing else is cancelling. -/
theorem truthfulStops_of_stop : TruthfulStops fullRobot
    [.bridge (readyFrame "go" .navigateToPose), .bridge (.goalResponse 0 .accepted, allReady),
      .bridge (readyFrame "halt" .stop), .ends .navigation 0, .serve .navigation true,
      .deliver 0 allReady] := by
  refine truthfulStops_run fullRobot _ ⟨fun h => absurd h (by decide), trivial, fun _ => ?_,
    trivial, trivial, trivial, trivial⟩
  have hphase : ((cancelMachine fullRobot).run {} [.bridge (readyFrame "go" .navigateToPose),
      .bridge (.goalResponse 0 .accepted, allReady)]).phase = fun _ _ => .executing := rfl
  have hrequests : ∀ kind, ((cancelMachine fullRobot).run {}
      [.bridge (readyFrame "go" .navigateToPose),
        .bridge (.goalResponse 0 .accepted, allReady)]).requests kind = [] := by
    intro kind
    cases kind <;> decide +kernel
  have hwaiting : ((cancelMachine fullRobot).run {} [.bridge (readyFrame "go" .navigateToPose),
      .bridge (.goalResponse 0 .accepted, allReady)]).executor.goals.waiting = [] := by
    decide +kernel
  have hreplies : ((cancelMachine fullRobot).run {} [.bridge (readyFrame "go" .navigateToPose),
      .bridge (.goalResponse 0 .accepted, allReady)]).replies = [] := rfl
  simp only [Machine.run_cons, Machine.run_nil] at hphase hrequests hwaiting hreplies
  refine ⟨⟨fun kind number hwaits => ?_, fun kind number hmem => ?_, fun given hmem => ?_⟩, ?_⟩
  · have hmem := Goals.mem_waiting.mpr ⟨kind, number, hwaits⟩
    rw [hwaiting] at hmem
    exact absurd hmem List.not_mem_nil
  · rw [hrequests] at hmem
    exact absurd hmem List.not_mem_nil
  · rw [hreplies] at hmem
    exact absurd hmem List.not_mem_nil
  · rintro kind number - (⟨reply, hmem⟩ | htaken)
    · rw [hrequests] at hmem
      exact absurd hmem List.not_mem_nil
    · rw [hphase] at htaken
      cases htaken

end PatrolBot
