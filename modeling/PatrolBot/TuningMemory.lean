import Mathlib.Tactic.Linarith
import PatrolBot.TuningAdmitted
import PatrolBot.TuningOutcome

/-!
# How long a tuning request id is remembered

The id of a change is to be refused for as long as its authorization may still be
current.  The memory is bounded by time and by count, and the count can win: what
is proved here is that nothing else does.
-/

namespace PatrolBot.Tuning

namespace Broker

/-! ### The clock and the room of a step -/

/-- The readings of the clock a step takes, in order. -/
def readings : BrokerEvent → List ℚ
  | .request _ _ _ answers => [answers.first, answers.second, answers.stored, answers.pruned]
  | .response _ _ _ stored pruned _ => [stored, pruned]
  | _ => []

/-- Fewer than `dedupe_limit` other ids are left once the memory is pruned. -/
def RoomFor (settings : BrokerSettings) (b : Broker) (requestId : String) (pruned : ℚ) : Prop :=
  (({ b with seen := b.seen.filter fun entry => entry.1 != requestId } : Broker).pruneSeen settings
    pruned).seen.length < settings.dedupeLimit

/-- There is room for the id the step remembers, if it does. -/
def Roomy (settings : BrokerSettings) (b : Broker) : BrokerEvent → Prop
  | .request user robotId payload answers => ∀ left entry wrapper,
      b.checks settings user robotId payload answers = (left, .ok (entry, wrapper)) →
      entry.mutation = true → left.RoomFor settings entry.requestId answers.pruned
  | .response session envelopeRobot payload _ pruned _ => ∀ registry reply entry,
      settings.catalog = some registry → validateResponse registry payload = .ok reply →
      b.entryOf reply.requestId = some entry → b.boundEntry entry session = true →
      envelopeRobot = entry.robotId → entry.mutation = true →
      b.RoomFor settings entry.requestId pruned
  | _ => True

/-- The id is remembered as of `since` at least. -/
def Held (b : Broker) (requestId : String) (since : ℚ) : Prop :=
  ∃ at', (requestId, at') ∈ b.seen ∧ since ≤ at'

/-! ### What the memory keeps -/

theorem mem_dropWhile {α : Type} {p : α → Bool} {x : α} {l : List α} (hmem : x ∈ l)
    (hx : p x = false) : x ∈ l.dropWhile p := by
  induction l with
  | nil => cases hmem
  | cons head tail ih =>
    rw [List.dropWhile_cons]
    split
    · rename_i hhead
      rcases List.mem_cons.mp hmem with rfl | hmem
      · rw [hx] at hhead
        cases hhead
      · exact ih hmem
    · exact hmem

theorem length_dropWhile_concat {α : Type} (p : α → Bool) (l : List α) (x : α) :
    ((l ++ [x]).dropWhile p).length ≤ (l.dropWhile p).length + 1 := by
  rw [List.dropWhile_append]
  split
  · refine le_trans (List.dropWhile_suffix p).length_le ?_
    simp
  · simp

section

variable {settings : BrokerSettings} {b : Broker} {requestId other : String} {since : ℚ}
variable {stored pruned reading : ℚ}

theorem remembers_of_held (h : Held b requestId since) : b.remembers requestId = true := by
  obtain ⟨at', hmem, -⟩ := h
  exact List.any_eq_true.mpr ⟨_, hmem, by simp⟩

theorem held_pruneSeen (h : Held b requestId since)
    (hreading : reading ≤ since + settings.dedupeTtlS) :
    Held (b.pruneSeen settings reading) requestId since := by
  obtain ⟨at', hmem, hsince⟩ := h
  unfold pruneSeen
  split
  · exact ⟨at', hmem, hsince⟩
  · refine ⟨at', mem_dropWhile hmem ?_, hsince⟩
    simp only [decide_eq_false_iff_not, not_lt]
    linarith

/-- With room nothing young is evicted. -/
theorem remember_seen (h : RoomFor settings b other pruned) :
    (b.remember settings other stored pruned).seen =
      ((b.store other stored).pruneSeen settings pruned).seen := by
  have hlength : ((b.store other stored).pruneSeen settings pruned).seen.length ≤
      settings.dedupeLimit := by
    unfold RoomFor at h
    unfold pruneSeen store at *
    split
    · rename_i httl
      rw [if_pos httl] at h
      simp only [List.length_append, List.length_singleton]
      exact h
    · rename_i httl
      rw [if_neg httl] at h
      exact le_trans (length_dropWhile_concat _ _ _) h
  unfold remember
  simp only [Nat.sub_eq_zero_of_le hlength, List.drop_zero]

theorem held_remember (h : Held b requestId since) (hroom : RoomFor settings b other pruned)
    (hstored : since ≤ stored) (hpruned : pruned ≤ since + settings.dedupeTtlS) :
    Held (b.remember settings other stored pruned) requestId since := by
  have hkept : Held (b.store other stored) requestId since := by
    obtain ⟨at', hmem, hsince⟩ := h
    by_cases hid : requestId = other
    · subst hid
      exact ⟨stored, List.mem_append_right _ (List.mem_singleton_self _), hstored⟩
    · refine ⟨at', List.mem_append_left _ (List.mem_filter.mpr ⟨hmem, ?_⟩), hsince⟩
      simpa using hid
  obtain ⟨at', hmem, hsince⟩ := @held_pruneSeen settings _ _ _ _ hkept hpruned
  exact ⟨at', remember_seen hroom ▸ hmem, hsince⟩

theorem held_of_remember (hroom : RoomFor settings b requestId pruned)
    (hpruned : pruned ≤ stored + settings.dedupeTtlS) :
    Held (b.remember settings requestId stored pruned) requestId stored := by
  have hkept : Held (b.store requestId stored) requestId stored :=
    ⟨stored, List.mem_append_right _ (List.mem_singleton_self _), le_refl _⟩
  obtain ⟨at', hmem, hsince⟩ := @held_pruneSeen settings _ _ _ _ hkept hpruned
  exact ⟨at', remember_seen hroom ▸ hmem, hsince⟩

theorem held_of_seen {next : Broker} (h : Held b requestId since) (heq : next.seen = b.seen) :
    Held next requestId since := by
  obtain ⟨at', hmem, hsince⟩ := h
  exact ⟨at', heq ▸ hmem, hsince⟩

/-- Room is a matter of the memory alone. -/
theorem roomFor_of_seen {next : Broker} (h : RoomFor settings b other pruned)
    (heq : next.seen = b.seen) : RoomFor settings next other pruned := by
  unfold RoomFor pruneSeen at *
  rw [heq]
  split
  · rename_i httl
    rw [if_pos httl] at h
    exact h
  · rename_i httl
    rw [if_neg httl] at h
    exact h

/-! ### Requests -/

theorem held_checkDuplicate {mutation : Bool} (h : Held b requestId since)
    (hreading : reading ≤ since + settings.dedupeTtlS) :
    Held (b.checkDuplicate settings other mutation reading).1 requestId since := by
  have hpruned := @held_pruneSeen settings _ _ _ _ h hreading
  unfold checkDuplicate
  split
  · exact h
  · split
    · dsimp only
      split
      · exact hpruned
      · exact hpruned
    · exact h

/-- A remembered id is a conflict for a change. -/
theorem conflict_of_held (h : Held b requestId since)
    (hreading : reading ≤ since + settings.dedupeTtlS) :
    ∃ detail, (b.checkDuplicate settings requestId true reading).2 = some (.conflict detail) := by
  have hremembers := remembers_of_held (@held_pruneSeen settings _ _ _ _ h hreading)
  unfold checkDuplicate
  split
  · exact ⟨_, rfl⟩
  · simp only [if_true, hremembers]
    exact ⟨_, rfl⟩

variable {user : User} {robotId : String} {payload : Json} {answers : RequestAnswers}

theorem held_checks (h : Held b requestId since)
    (hfirst : answers.first ≤ since + settings.dedupeTtlS)
    (hsecond : answers.second ≤ since + settings.dedupeTtlS) :
    Held (b.checks settings user robotId payload answers).1 requestId since := by
  unfold checks
  split
  · exact h
  · rename_i request hadmitted
    dsimp only
    have hheld := @held_checkDuplicate settings b requestId (requestIdOf request) since
      answers.first (isMutationRequest request) h hfirst
    generalize b.checkDuplicate settings (requestIdOf request) (isMutationRequest request)
      answers.first = first at hheld
    obtain ⟨first, failure⟩ := first
    cases failure with
    | some failure => exact hheld
    | none =>
      dsimp only
      cases first.checkBusy settings robotId (isMutationRequest request) with
      | some failure => exact hheld
      | none =>
        dsimp only
        have hheld' := @held_checkDuplicate settings first requestId (requestIdOf request) since
          answers.second (isMutationRequest request) hheld hsecond
        generalize first.checkDuplicate settings (requestIdOf request) (isMutationRequest request)
          answers.second = second at hheld'
        obtain ⟨second, failure⟩ := second
        cases failure with
        | some failure => exact hheld'
        | none => exact hheld'

/-- The checks let no change under a remembered id through. -/
theorem conflict_of_checks {request : List (String × Json)} (h : Held b requestId since)
    (hfirst : answers.first ≤ since + settings.dedupeTtlS)
    (hadmitted : admitted settings user payload = .ok request)
    (hmutation : isMutationRequest request = true) (hid : requestIdOf request = requestId) :
    ∃ detail, (b.checks settings user robotId payload answers).2 = .error (.conflict detail) := by
  obtain ⟨detail, hdetail⟩ := @conflict_of_held settings _ _ _ _ h hfirst
  unfold checks
  rw [hadmitted]
  dsimp only
  rw [hmutation, hid]
  generalize b.checkDuplicate settings requestId true answers.first = first at hdetail
  obtain ⟨first, failure⟩ := first
  obtain rfl : failure = some (.conflict detail) := hdetail
  exact ⟨detail, rfl⟩

/-- What the checks let through is an admitted request. -/
theorem admitted_of_checks {entry : Pending} {wrapper : Json}
    (h : (b.checks settings user robotId payload answers).2 = .ok (entry, wrapper)) :
    ∃ request, admitted settings user payload = .ok request ∧
      entry.requestId = requestIdOf request ∧ entry.mutation = isMutationRequest request := by
  unfold checks at h
  split at h
  · cases h
  · rename_i request hadmitted
    refine ⟨request, hadmitted, ?_⟩
    dsimp only at h
    split at h
    · cases h
    · split at h
      · cases h
      · split at h
        · cases h
        · obtain ⟨-, hid, -, hmutation, -⟩ := prepare_eq_ok h
          exact ⟨hid, hmutation⟩

/-- The memory after an entry was dispatched. -/
theorem dispatch_seen {entry : Pending} {wrapper : Json} :
    ∃ entered : Broker, entered.seen = b.seen ∧
      (b.dispatch settings entry wrapper answers).1.seen =
        if entry.mutation then
          (entered.remember settings entry.requestId answers.stored answers.pruned).seen
        else b.seen := by
  unfold dispatch
  dsimp only
  refine ⟨{ b with
    calls := b.calls + 1
    pending := b.pending ++ [entry]
    locks := if entry.mutation then b.locks ++ [entry.robotId] else b.locks }, rfl, ?_⟩
  split
  · split
    · rfl
    · rfl
  · split
    · rfl
    · rfl

theorem held_request (h : Held b requestId since)
    (hreadings : ∀ reading ∈ [answers.first, answers.second, answers.stored, answers.pruned],
      since ≤ reading ∧ reading ≤ since + settings.dedupeTtlS)
    (hroomy : Roomy settings b (.request user robotId payload answers)) :
    Held (b.request settings user robotId payload answers).1 requestId since := by
  simp only [List.mem_cons, List.not_mem_nil, or_false, forall_eq_or_imp, forall_eq] at hreadings
  obtain ⟨hfirst, hsecond, hstored, hpruned⟩ := hreadings
  have hheld := @held_checks settings b requestId since user robotId payload answers h
    hfirst.2 hsecond.2
  unfold Broker.request
  cases hchecks : b.checks settings user robotId payload answers with
  | mk left outcome =>
    rw [hchecks] at hheld
    cases outcome with
    | error failure => exact hheld
    | ok prepared =>
      obtain ⟨entry, wrapper⟩ := prepared
      obtain ⟨entered, hentered, hseen⟩ := @dispatch_seen settings left answers entry wrapper
      by_cases hchange : entry.mutation = true
      · rw [if_pos hchange] at hseen
        have hroom := hroomy left entry wrapper hchecks hchange
        exact held_of_seen (held_remember (held_of_seen hheld hentered)
          (roomFor_of_seen hroom hentered) hstored.1 hpruned.2) hseen
      · rw [if_neg hchange] at hseen
        exact held_of_seen hheld hseen

/-- The frame of a change has passed the checks. -/
theorem checks_of_sent {call session generation websocket : Nat} {wrapper : Json}
    (hsent : .sent call session generation websocket requestId true wrapper ∈
      (b.request settings user robotId payload answers).2) :
    ∃ left entry, b.checks settings user robotId payload answers = (left, .ok (entry, wrapper)) ∧
      entry.requestId = requestId ∧ entry.mutation = true := by
  unfold Broker.request at hsent
  cases hchecks : b.checks settings user robotId payload answers with
  | mk left outcome =>
    rw [hchecks] at hsent
    cases outcome with
    | error failure => simp [refuse] at hsent
    | ok prepared =>
      obtain ⟨entry, made⟩ := prepared
      have hsent : .sent call session generation websocket requestId true wrapper ∈
          (left.dispatch settings entry made answers).2 := hsent
      obtain ⟨_, next, -, hleft | hbounced⟩ :=
        @dispatch_cases settings left answers entry made left.seen
      · have hleft : left.dispatch settings entry made answers = (next, _) := hleft
        rw [hleft] at hsent
        simp only [List.mem_singleton, BrokerEmit.sent.injEq] at hsent
        obtain ⟨-, -, -, -, rfl, hchange, rfl⟩ := hsent
        exact ⟨left, entry, rfl, rfl, hchange.symm⟩
      · have hbounced : left.dispatch settings entry made answers = (next.release entry, _) :=
          hbounced
        rw [hbounced] at hsent
        simp at hsent

/-- The frame of a change leaves with its id remembered. -/
theorem held_of_sent {call session generation websocket : Nat} {wrapper : Json}
    (hsent : .sent call session generation websocket requestId true wrapper ∈
      (b.request settings user robotId payload answers).2)
    (hroomy : Roomy settings b (.request user robotId payload answers))
    (hpruned : answers.pruned ≤ answers.stored + settings.dedupeTtlS) :
    Held (b.request settings user robotId payload answers).1 requestId answers.stored := by
  obtain ⟨left, entry, hchecks, rfl, hchange⟩ := checks_of_sent hsent
  obtain ⟨entered, hentered, hseen⟩ := @dispatch_seen settings left answers entry wrapper
  rw [if_pos hchange] at hseen
  have hroom := hroomy left entry wrapper hchecks hchange
  have hheld := @held_of_remember _ _ _ answers.stored _ (roomFor_of_seen hroom hentered) hpruned
  unfold Broker.request
  rw [hchecks]
  exact held_of_seen hheld hseen

/-! ### Every step -/

theorem held_handleResponse {session : Nat} {envelopeRobot : String} {received : ℚ}
    (h : Held b requestId since) (hstored : since ≤ stored)
    (hpruned : pruned ≤ since + settings.dedupeTtlS)
    (hroomy : Roomy settings b (.response session envelopeRobot payload stored pruned received)) :
    Held (b.handleResponse settings session envelopeRobot payload stored pruned received).1
      requestId since := by
  unfold handleResponse
  split
  · exact h
  · rename_i held hheld
    split
    · exact h
    · rename_i websocket hwebsocket
      split
      · exact h
      · split
        · exact h
        · exact h
        · rename_i data registry hdata hregistry
          split
          · unfold rejectReply
            split
            · exact h
            · split
              · exact held_of_seen h rfl
              · exact h
          · rename_i reply hreply
            split
            · exact h
            · obtain ⟨policies, hpolicies⟩ := @cachePolicy_frame b session held.robotId websocket
                reply received
              rw [hpolicies]
              unfold deliver
              split
              · exact held_of_seen h rfl
              · rename_i entry hfound
                split
                · exact held_of_seen h rfl
                · rename_i haddressed
                  simp only [not_or, Bool.not_eq_false, not_not] at haddressed
                  dsimp only
                  split
                  · rename_i hchange
                    have hroom := hroomy registry reply entry hregistry hreply hfound haddressed.1
                      haddressed.2 hchange
                    have hremembered : Held (({ b with policies := policies } : Broker).remember
                        settings entry.requestId stored pruned) requestId since :=
                      held_remember (held_of_seen h rfl) (roomFor_of_seen hroom rfl) hstored hpruned
                    exact held_of_seen hremembered rfl
                  · exact held_of_seen h rfl

theorem held_step (event : BrokerEvent) (h : Held b requestId since)
    (hreadings : ∀ reading ∈ readings event,
      since ≤ reading ∧ reading ≤ since + settings.dedupeTtlS)
    (hroomy : Roomy settings b event) : Held (b.step settings event).1 requestId since := by
  cases event with
  | request user robotId payload answers => exact held_request h hreadings hroomy
  | response session envelopeRobot payload stored pruned received =>
    simp only [readings, List.mem_cons, List.not_mem_nil, or_false, forall_eq_or_imp,
      forall_eq] at hreadings
    exact held_handleResponse h hreadings.1.1 hreadings.2.2 hroomy
  | sendDone call raised =>
    simp only [step, sendDone]
    split
    · exact h
    · split
      · exact held_of_seen h rfl
      · split <;> exact held_of_seen h rfl
  | resumed call =>
    simp only [step, resumed]
    split
    · exact h
    · rename_i entry htask
      split
      · exact h
      · exact held_of_seen h rfl
      · rename_i response hfuture
        split
        · exact held_of_seen h rfl
        · obtain ⟨desired, hdesired⟩ := @updateDesired_frame b entry response.snapshot
          rw [hdesired]
          exact held_of_seen h rfl
  | timedOut call =>
    simp only [step, timedOut]
    split
    · exact h
    · exact held_of_seen h rfl
  | connecting robotId =>
    simp only [step, connect, disconnected]
    split <;> exact held_of_seen h rfl
  | installed connection =>
    simp only [step, installed]
    split
    · exact h
    · exact held_of_seen h rfl
  | leaving session connection =>
    simp only [step, leave]
    split
    · exact h
    · split
      · exact held_of_seen h rfl
      · exact h
  | left session =>
    simp only [step, leftSession]
    split
    · exact held_of_seen h rfl
    · exact h
  | reported robotId view => exact held_of_seen h rfl

theorem held_run (events : List BrokerEvent) (h : Held b requestId since)
    (hreadings : ∀ event ∈ events, ∀ reading ∈ readings event,
      since ≤ reading ∧ reading ≤ since + settings.dedupeTtlS)
    (hroomy : (tuningBroker settings).Along (Roomy settings) b events) :
    Held ((tuningBroker settings).run b events) requestId since := by
  induction events generalizing b with
  | nil => exact h
  | cons event events ih =>
    obtain ⟨hnow, hlater⟩ := hroomy
    exact ih (held_step event h (hreadings event List.mem_cons_self) hnow)
      (fun other hother => hreadings other (List.mem_cons_of_mem _ hother)) hlater

end

end Broker

open Broker

/-- In every run with a clock that does not run back whose steps find room for the
    ids they remember: once the frame of a change was handed to the socket, its id
    is refused until its time to live is over, a change with a conflict, and no
    frame of a change leaves under it again. -/
theorem remembered_run (settings : BrokerSettings) (events : List BrokerEvent)
    (hclock : (events.flatMap readings).Pairwise (· ≤ ·))
    (hroomy : (tuningBroker settings).Along (Roomy settings) {} events) :
    let broker := tuningBroker settings
    ∀ earlier user robotId payload answers middle user' robotId' payload' answers' later,
      events = earlier ++ .request user robotId payload answers ::
        (middle ++ .request user' robotId' payload' answers' :: later) →
      ∀ call session generation websocket requestId wrapper,
        .sent call session generation websocket requestId true wrapper ∈
          (broker.step (broker.run {} earlier) (.request user robotId payload answers)).2 →
        answers'.first < answers.stored + settings.dedupeTtlS →
        let repeated := broker.step
          (broker.run {} (earlier ++ .request user robotId payload answers :: middle))
          (.request user' robotId' payload' answers')
        (∀ request, admitted settings user' payload' = .ok request →
          isMutationRequest request = true → requestIdOf request = requestId →
          ∃ call' detail, repeated.2 = [.refused call' (.conflict detail)]) ∧
        ∀ call' session' generation' websocket' wrapper',
          .sent call' session' generation' websocket' requestId true wrapper' ∉ repeated.2 := by
  intro broker earlier user robotId payload answers middle user' robotId' payload' answers' later
    hevents call session generation websocket requestId wrapper hsent hbefore repeated
  subst hevents
  simp only [List.flatMap_append, List.flatMap_cons, readings] at hclock
  obtain ⟨-, hclock, -⟩ := List.pairwise_append.mp hclock
  obtain ⟨hown, hrest, hafter⟩ := List.pairwise_append.mp hclock
  obtain ⟨-, hlater, hbetween⟩ := List.pairwise_append.mp hrest
  have hstored : ∀ reading ∈ middle.flatMap readings, answers.stored ≤ reading := by
    intro reading hreading
    exact hafter _ (by simp) reading (List.mem_append_left _ hreading)
  have hbound : ∀ reading ∈ middle.flatMap readings, reading ≤ answers'.first := by
    intro reading hreading
    exact hbetween reading hreading _ (by simp)
  have hpruned : answers.pruned ≤ answers'.first := hafter _ (by simp) _ (by simp)
  obtain ⟨-, hsending, hroomy⟩ := broker.along_append.mp hroomy
  obtain ⟨hmiddle, -⟩ := broker.along_append.mp hroomy
  have hheld : Broker.Held
      (broker.run {} (earlier ++ .request user robotId payload answers :: middle))
      requestId answers.stored := by
    rw [broker.run_append]
    refine held_run middle (held_of_sent hsent hsending (by linarith)) ?_ hmiddle
    intro event hevent reading hreading
    have hmem := List.mem_flatMap.mpr ⟨event, hevent, hreading⟩
    have hupper := hbound reading hmem
    exact ⟨hstored reading hmem, by linarith⟩
  have hconflict : ∀ request, admitted settings user' payload' = .ok request →
      isMutationRequest request = true → requestIdOf request = requestId →
      ∃ detail, ((broker.run {} (earlier ++ .request user robotId payload answers :: middle)).checks
        settings user' robotId' payload' answers').2 = .error (.conflict detail) := by
    intro request hadmitted hmutation hid
    exact conflict_of_checks hheld (le_of_lt hbefore) hadmitted hmutation hid
  constructor
  · intro request hadmitted hmutation hid
    obtain ⟨detail, hdetail⟩ := hconflict request hadmitted hmutation hid
    have hrepeated : repeated = Broker.request settings
        (broker.run {} (earlier ++ .request user robotId payload answers :: middle)) user' robotId'
        payload' answers' := rfl
    rw [hrepeated]
    unfold Broker.request
    generalize Broker.checks settings
      (broker.run {} (earlier ++ .request user robotId payload answers :: middle)) user' robotId'
      payload' answers' = checked at hdetail
    obtain ⟨left, outcome⟩ := checked
    obtain rfl : outcome = .error (.conflict detail) := hdetail
    exact ⟨left.calls, detail, rfl⟩
  · intro call' session' generation' websocket' wrapper' hagain
    obtain ⟨left, entry, hchecks, hid, hchange⟩ := checks_of_sent hagain
    obtain ⟨request, hadmitted, hentry, hmutation⟩ :=
      admitted_of_checks (congrArg Prod.snd hchecks)
    obtain ⟨detail, hdetail⟩ := hconflict request hadmitted (hmutation ▸ hchange)
      (hentry ▸ hid)
    rw [hchecks] at hdetail
    cases hdetail

/-! ### A short run, and one that evicts -/

theorem roomy_of_length {settings : BrokerSettings} {b : Broker} (event : BrokerEvent)
    (h : b.seen.length < settings.dedupeLimit) : Roomy settings b event := by
  have hroom : ∀ (left : Broker) requestId pruned, left.seen.length ≤ b.seen.length →
      left.RoomFor settings requestId pruned := by
    intro left requestId pruned hleft
    obtain ⟨seen, hseen, hlength⟩ := @pruneSeen_frame settings
      { left with seen := left.seen.filter fun entry => entry.1 != requestId } pruned
    unfold RoomFor
    rw [hseen]
    have hfilter := List.length_filter_le (fun entry => entry.1 != requestId) left.seen
    exact lt_of_le_of_lt (le_trans hlength (le_trans hfilter hleft)) h
  cases event with
  | request user robotId payload answers =>
    intro left entry wrapper hchecks _
    obtain ⟨seen, hseen, hlength, -⟩ := @checks_cases settings b user robotId payload answers
    rw [hchecks] at hseen
    obtain rfl : left = { b with seen := seen } := hseen
    exact hroom _ _ _ hlength
  | response session envelopeRobot payload stored pruned received =>
    intro registry reply entry _ _ _ _ _ _
    exact hroom b _ _ (le_refl _)
  | _ => trivial

/-- The call and the id of a frame. -/
def sentId : BrokerEmit → Option (Nat × String × Bool)
  | .sent call _ _ _ requestId mutation _ => some (call, requestId, mutation)
  | _ => none

/-- A broker that remembers so many ids. -/
def sampleBroker (dedupeLimit : Nat) : BrokerSettings where
  floats := wireFloats
  hmac := sampleDigest
  repr _ := ""
  catalog := some []
  dedupeLimit := dedupeLimit

def sampleOther : String := "01234567-89ab-4cde-8f01-23456789abce"

/-- A change under that id, at that second. -/
def sampleRequest (requestId : String) (second : ℚ) : BrokerEvent :=
  .request sampleUser "robot-1" (.obj (insertAt "request_id" (.str requestId) sampleApply))
    ⟨second, second, second, second, some wireKey, .finite 100⟩

/-- The robot's refusal of it. -/
def sampleRefusal (requestId : String) (second : ℚ) : BrokerEvent :=
  .response 1 "robot-1" (.obj [("request_id", .str requestId), ("outcome", .str "refused"),
    ("detail", .str ""), ("snapshot", .null), ("job", .null)]) second second second

/-- The robot connects, and can be tuned. -/
def sampleConnection : List BrokerEvent :=
  [.connecting "robot-1", .installed 0, .reported "robot-1" ⟨true, [capability], none⟩]

theorem remembered_run_sampleApply :
    ∃ call detail, ((tuningBroker (sampleBroker 512)).step ((tuningBroker (sampleBroker 512)).run {}
        (sampleConnection ++ sampleRequest sampleId 0 ::
          [.sendDone 0 false, sampleRefusal sampleId 1, .resumed 0]))
      (sampleRequest sampleId 4)).2 = [.refused call (.conflict detail)] := by
  have hsent : ((tuningBroker (sampleBroker 512)).step
      ((tuningBroker (sampleBroker 512)).run {} sampleConnection)
      (sampleRequest sampleId 0)).2.filterMap sentId = [(0, sampleId, true)] := by decide +kernel
  have hmem : (0, sampleId, true) ∈ ((tuningBroker (sampleBroker 512)).step
      ((tuningBroker (sampleBroker 512)).run {} sampleConnection)
      (sampleRequest sampleId 0)).2.filterMap sentId := by
    rw [hsent]
    exact List.mem_singleton_self _
  obtain ⟨emit, hemit, hid⟩ := List.mem_filterMap.mp hmem
  cases emit with
  | sent call session generation websocket requestId mutation wrapper =>
    obtain ⟨rfl, rfl, rfl⟩ : call = 0 ∧ requestId = sampleId ∧ mutation = true := by
      simpa [sentId] using hid
    have hadmitted : (admitted (sampleBroker 512) sampleUser
        (.obj (insertAt "request_id" (.str sampleId) sampleApply))).toOption.map
        (fun request => (isMutationRequest request, requestIdOf request)) =
          some (true, sampleId) := by decide +kernel
    obtain ⟨request, hrequest, hfields⟩ := Option.map_eq_some_iff.mp hadmitted
    obtain ⟨hmutation, hrequestId⟩ := Prod.mk.inj hfields
    have hok : admitted (sampleBroker 512) sampleUser
        (.obj (insertAt "request_id" (.str sampleId) sampleApply)) = .ok request := by
      generalize admitted (sampleBroker 512) sampleUser
        (.obj (insertAt "request_id" (.str sampleId) sampleApply)) = outcome at hrequest
      cases outcome with
      | error failure => cases hrequest
      | ok made =>
        obtain rfl := Option.some.inj hrequest
        rfl
    refine (remembered_run (sampleBroker 512) (sampleConnection ++ sampleRequest sampleId 0 ::
        ([.sendDone 0 false, sampleRefusal sampleId 1, .resumed 0] ++
          sampleRequest sampleId 4 :: []))
      (by decide +kernel) ?_ sampleConnection _ _ _ _ _ _ _ _ _ [] rfl _ _ _ _ _ _ hemit
      (by decide +kernel)).1 request hok hmutation hrequestId
    exact ⟨roomy_of_length _ (by decide +kernel), roomy_of_length _ (by decide +kernel),
      roomy_of_length _ (by decide +kernel), roomy_of_length _ (by decide +kernel),
      roomy_of_length _ (by decide +kernel), roomy_of_length _ (by decide +kernel),
      roomy_of_length _ (by decide +kernel), roomy_of_length _ (by decide +kernel), trivial⟩
  | refused call failure => cases hid
  | returned call response => cases hid
  | received session generation websocket reply at' => cases hid
  | raised => cases hid

/-- With one id of memory the change that comes between makes room: within a
    minute the first id is sent again. -/
theorem not_remembered_run :
    (emitted ((tuningBroker (sampleBroker 1)).trace {} (sampleConnection ++
      [sampleRequest sampleId 0, .sendDone 0 false, sampleRefusal sampleId 1, .resumed 0,
        sampleRequest sampleOther 2, .sendDone 1 false, sampleRefusal sampleOther 3, .resumed 1,
        sampleRequest sampleId 4]))).filterMap sentId =
      [(0, sampleId, true), (1, sampleOther, true), (2, sampleId, true)] := by
  decide +kernel

end PatrolBot.Tuning
