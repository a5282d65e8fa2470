import PatrolBot.TuningAdapter
import PatrolBot.TuningAdmitted

/-!
# What the tuning adapter never does

Over every sequence of arrivals, ticks, completions and losses of the transport:
no wrapper is called or answered twice, calls are awaited one at a time, an `ok`
answer is the core's for that request, and nothing survives a disconnection.
-/

namespace PatrolBot.Tuning.Bridge

/-! ### Counting -/

def Origin.hasToken (origin : Origin) (token : Nat) : Bool :=
  match origin with
  | .enqueued number _ => number == token
  | .probe => false

@[simp] theorem Origin.hasToken_enqueued (number arrivedOn token : Nat) :
    (Origin.enqueued number arrivedOn).hasToken token = (number == token) := rfl

@[simp] theorem Origin.hasToken_probe (token : Nat) : Origin.probe.hasToken token = false := rfl

/-- A service call for the wrapper of that number. -/
def AdapterEmit.isCallOf (token : Nat) : AdapterEmit → Bool
  | .called origin _ _ _ => origin.hasToken token
  | _ => false

/-- A response for the wrapper of that number. -/
def AdapterEmit.isResponseOf (token : Nat) : AdapterEmit → Bool
  | .response origin _ _ _ => origin.hasToken token
  | _ => false

/-- The outputs of a history. -/
def outputs (history : List (AdapterEvent × List AdapterEmit)) : List AdapterEmit :=
  history.flatMap Prod.snd

@[simp] theorem outputs_append (before after : List (AdapterEvent × List AdapterEmit)) :
    outputs (before ++ after) = outputs before ++ outputs after := List.flatMap_append

@[simp] theorem outputs_singleton (event : AdapterEvent) (emits : List AdapterEmit) :
    outputs [(event, emits)] = emits := by simp [outputs]

/-- The calls a wrapper may still cause: it has yet to come, or waits. -/
def Adapter.waiting (a : Adapter) (token : Nat) : Nat :=
  a.queue.countP (fun entry => entry.1.hasToken token) + (decide (a.arrivals ≤ token)).toNat

/-- The responses a wrapper may still cause. -/
def Adapter.owed (a : Adapter) (token : Nat) : Nat :=
  a.waiting token + (a.inflight.any fun inflight => inflight.origin.hasToken token).toNat

/-- A method that answers for the wrapper of `origin` makes no call, and one
    response at most. -/
def Replies (a : Adapter) (origin : Origin) (result : Adapter × List AdapterEmit) : Prop :=
  ∀ token,
    result.2.countP (·.isCallOf token) + result.1.waiting token ≤ a.waiting token ∧
      result.2.countP (·.isResponseOf token) + result.1.owed token ≤
        a.owed token + (origin.hasToken token).toNat

/-- A method that dispatches the wrapper of `origin` makes one call or one
    response at most. -/
def Spends (a : Adapter) (origin : Origin) (result : Adapter × List AdapterEmit) : Prop :=
  ∀ token,
    result.2.countP (·.isCallOf token) + result.1.waiting token ≤
        a.waiting token + (origin.hasToken token).toNat ∧
      result.2.countP (·.isResponseOf token) + result.1.owed token ≤
        a.owed token + (origin.hasToken token).toNat

theorem Replies.spends {a : Adapter} {origin : Origin} {result : Adapter × List AdapterEmit}
    (h : Replies a origin result) : Spends a origin result :=
  fun token => ⟨Nat.le_add_right_of_le (h token).1, (h token).2⟩

section

variable {floats : FloatTexts} {deadlineS : ℚ} {a : Adapter} {origin : Origin}
variable {requestId detail : String} {data value wrapper payload : Json} {answers : TickAnswers}
variable {inflight : Inflight} {reply : Reply} {keptAt : ℚ}

theorem answers_respond : Replies a origin (a, [a.respond origin data]) := by
  intro token
  cases h : origin.hasToken token
  · simp [Adapter.respond, AdapterEmit.isCallOf, AdapterEmit.isResponseOf, h]
  · simp [Adapter.respond, AdapterEmit.isCallOf, AdapterEmit.isResponseOf, h]
    omega

theorem answers_sendUnknown : Replies a origin (a.sendUnknown origin requestId detail) := by
  intro token
  exact @answers_respond a origin (replyBody requestId "unknown" detail) token

theorem spends_dispatch (hfree : a.inflight = none) :
    Spends a origin (a.dispatch floats origin wrapper answers) := by
  unfold Adapter.dispatch
  split
  · exact answers_respond.spends
  · split
    · exact answers_respond.spends
    · split
      · exact answers_respond.spends
      · split
        · exact answers_sendUnknown.spends
        · intro token
          cases h : origin.hasToken token
          · simp [Adapter.waiting, Adapter.owed, AdapterEmit.isCallOf, AdapterEmit.isResponseOf, h,
              hfree]
          · simp [Adapter.waiting, Adapter.owed, AdapterEmit.isCallOf, AdapterEmit.isResponseOf, h,
              hfree]
            omega

theorem answers_relay : Replies a inflight.origin (a.relay inflight value keptAt) := by
  unfold Adapter.relay
  split
  · exact answers_sendUnknown
  · split
    · dsimp only
      unfold Adapter.keep
      split
      · exact answers_respond
      · split
        · intro token
          cases h : inflight.origin.hasToken token
          · simp [Adapter.waiting, Adapter.owed, Adapter.respond, AdapterEmit.isCallOf,
              AdapterEmit.isResponseOf, h]
          · simp [Adapter.waiting, Adapter.owed, Adapter.respond, AdapterEmit.isCallOf,
              AdapterEmit.isResponseOf, h]
            omega
        · exact answers_respond
    · exact answers_sendUnknown

theorem answers_finish : Replies a inflight.origin (a.finish inflight reply keptAt) := by
  unfold Adapter.finish
  split
  · intro token
    simp [Adapter.waiting, Adapter.owed]
  · split
    · exact answers_sendUnknown
    · exact answers_sendUnknown
    · exact answers_sendUnknown
    · exact answers_sendUnknown
    · exact answers_relay

/-- No step calls or answers more than was owed. -/
def Pays (a : Adapter) (result : Adapter × List AdapterEmit) : Prop :=
  ∀ token, result.2.countP (·.isCallOf token) + result.1.waiting token ≤ a.waiting token ∧
    result.2.countP (·.isResponseOf token) + result.1.owed token ≤ a.owed token

theorem pays_settle (hinflight : a.inflight = some inflight) :
    Pays a (a.settle deadlineS inflight answers) := by
  have hended : ∀ result : Adapter × List AdapterEmit,
      Replies { a with inflight := none } inflight.origin result →
      Pays a (result.1, .ended inflight.call :: result.2) := by
    intro result hanswers token
    obtain ⟨hcalls, hresponses⟩ := hanswers token
    have hwaiting : ({ a with inflight := none } : Adapter).waiting token = a.waiting token := rfl
    have howed : ({ a with inflight := none } : Adapter).owed token +
        (inflight.origin.hasToken token).toNat = a.owed token := by
      cases h : inflight.origin.hasToken token <;>
        simp [Adapter.waiting, Adapter.owed, h, hinflight]
    rw [hwaiting] at hcalls
    rw [howed] at hresponses
    refine ⟨?_, ?_⟩
    · rwa [List.countP_cons_of_neg (by simp [AdapterEmit.isCallOf])]
    · rwa [List.countP_cons_of_neg (by simp [AdapterEmit.isResponseOf])]
  unfold Adapter.settle
  split
  · exact hended _ answers_finish
  · split
    · exact hended _ answers_sendUnknown
    · exact fun token => ⟨by simp, by simp⟩

theorem pays_tick : Pays a (a.tick floats deadlineS answers) := by
  unfold Adapter.tick
  split
  · rename_i inflight hinflight
    exact pays_settle hinflight
  · rename_i hfree
    split
    · rename_i origin wrapper queue hqueue
      intro token
      obtain ⟨hcalls, hresponses⟩ :=
        @spends_dispatch floats { a with queue := queue } origin wrapper answers hfree token
      have hwaiting : ({ a with queue := queue } : Adapter).waiting token +
          (origin.hasToken token).toNat = a.waiting token := by
        cases h : origin.hasToken token
        · simp [Adapter.waiting, hqueue, h]
        · simp [Adapter.waiting, hqueue, h]
          omega
      have howed : ({ a with queue := queue } : Adapter).owed token +
          (origin.hasToken token).toNat = a.owed token := by
        simp only [Adapter.owed, hfree, ← hwaiting]
        omega
      rw [hwaiting] at hcalls
      rw [howed] at hresponses
      exact ⟨hcalls, hresponses⟩
    · split
      · exact @spends_dispatch floats { a with lastProbe := some answers.now } .probe _ answers
          hfree
      · exact fun token => ⟨by simp, by simp⟩

theorem pays_enqueue : Pays a (a.enqueue payload) := by
  intro token
  unfold Adapter.enqueue
  dsimp only
  split
  · by_cases htoken : a.arrivals = token
    · subst htoken
      simp [Adapter.sendUnknown, Adapter.respond, Adapter.waiting, Adapter.owed,
        AdapterEmit.isCallOf, AdapterEmit.isResponseOf]
      omega
    · have hindicator : (a.arrivals + 1 ≤ token) = (a.arrivals ≤ token) := by
        rw [eq_iff_iff]
        omega
      simp [Adapter.sendUnknown, Adapter.respond, Adapter.waiting, Adapter.owed,
        AdapterEmit.isCallOf, AdapterEmit.isResponseOf, hindicator, htoken]
  · by_cases htoken : a.arrivals = token
    · subst htoken
      simp [Adapter.waiting, Adapter.owed]
    · have hindicator : (a.arrivals + 1 ≤ token) = (a.arrivals ≤ token) := by
        rw [eq_iff_iff]
        omega
      simp [Adapter.waiting, Adapter.owed, hindicator, htoken]

theorem pays_completed {call : Nat} : Pays a (a.completed call reply) := by
  intro token
  unfold Adapter.completed
  split
  · simp
  · rename_i inflight hinflight
    split
    · simp [Adapter.waiting, Adapter.owed, hinflight]
    · simp

theorem pays_disconnected : Pays a a.disconnected := by
  intro token
  unfold Adapter.disconnected
  dsimp only
  split
  · rename_i hinflight
    simp [Adapter.waiting, Adapter.owed, hinflight]
  · simp [Adapter.waiting, Adapter.owed, AdapterEmit.isCallOf, AdapterEmit.isResponseOf]
    omega

/-- Every step pays for what it does. -/
theorem pays_step (event : AdapterEvent) : Pays a (a.step floats deadlineS event) := by
  cases event with
  | enqueue payload => exact pays_enqueue
  | tick answers => exact pays_tick
  | completed call reply => exact pays_completed
  | disconnected => exact pays_disconnected
  | connect => exact fun token => ⟨(Nat.zero_add _).le, (Nat.zero_add _).le⟩
  | cut => exact fun token => ⟨(Nat.zero_add _).le, (Nat.zero_add _).le⟩
  | generationChange => exact fun token => ⟨(Nat.zero_add _).le, (Nat.zero_add _).le⟩

/-- No wrapper is called twice, and none is answered twice. -/
theorem once_run (events : List AdapterEvent) (token : Nat) :
    let emitted := outputs ((rosTuning floats deadlineS).trace {} events)
    emitted.countP (·.isCallOf token) ≤ 1 ∧ emitted.countP (·.isResponseOf token) ≤ 1 := by
  have h := (rosTuning floats deadlineS).history_invariant
    (fun history a =>
      (outputs history).countP (·.isCallOf token) + a.waiting token ≤ 1 ∧
        (outputs history).countP (·.isResponseOf token) + a.owed token ≤ 1)
    (fun history a event _ hinv => by
      obtain ⟨hcalls, hresponses⟩ := @pays_step floats deadlineS a event token
      have hcalls' : (((rosTuning floats deadlineS).step a event).2).countP (·.isCallOf token) +
          ((rosTuning floats deadlineS).step a event).1.waiting token ≤ a.waiting token := hcalls
      have hresponses' : (((rosTuning floats deadlineS).step a event).2).countP
          (·.isResponseOf token) +
          ((rosTuning floats deadlineS).step a event).1.owed token ≤ a.owed token := hresponses
      rw [outputs_append, outputs_singleton, List.countP_append, List.countP_append]
      omega)
    (by simp [outputs, Adapter.waiting, Adapter.owed])
    ((rosTuning floats deadlineS).along_true {} events)
  dsimp only
  omega

end

/-! ### What a step can do -/

/-- A method that answers for the wrapper of `origin`: nothing but the counters
    and the snapshot changes, and an `ok` answer meets `good`. -/
structure Relays (a : Adapter) (origin : Origin) (good : Json → Prop)
    (result : Adapter × List AdapterEmit) : Prop where
  queue_eq : result.1.queue = a.queue
  inflight_eq : result.1.inflight = a.inflight
  arrivals_eq : result.1.arrivals = a.arrivals
  calls_eq : result.1.calls = a.calls
  connected_eq : result.1.connected = a.connected
  generation_eq : result.1.connectionGeneration = a.connectionGeneration
  emits : ∀ emit ∈ result.2,
    (∃ data, emit = a.respond origin data ∧
      (isText (part data "outcome") "ok" = true → good data)) ∨
    ∃ snapshot call generation, emit = .kept snapshot call generation

/-- The wrapper a tick takes up, and the adapter without it. -/
inductive Taken (a : Adapter) : Origin → Json → Adapter → Prop
  | queued (origin : Origin) (wrapper : Json) (rest : List (Origin × Json))
      (h : a.queue = (origin, wrapper) :: rest) :
      Taken a origin wrapper { a with queue := rest }
  | probe (id : String) (now : ℚ) (hqueue : a.queue = []) (hconnected : a.connected = true) :
      Taken a .probe (probeWrapper id) { a with lastProbe := some now }

/-- What a result has to meet to be relayed as `ok`. -/
def Good (a : Adapter) (inflight : Inflight) (data : Json) : Prop :=
  inflight.reply = some (.data data) ∧ inflight.generation = a.connectionGeneration ∧
    canonicalUuid (part data "request_id") = some inflight.requestId

/-- The moves of a tick. -/
inductive TickMove (a : Adapter) : Adapter × List AdapterEmit → Prop
  | idle : TickMove a (a, [])
  | settled (inflight : Inflight) (result : Adapter × List AdapterEmit)
      (hinflight : a.inflight = some inflight)
      (hrelays : Relays { a with inflight := none } inflight.origin (Good a inflight) result) :
      TickMove a (result.1, .ended inflight.call :: result.2)
  | refused (origin : Origin) (wrapper : Json) (taken : Adapter)
      (result : Adapter × List AdapterEmit) (hfree : a.inflight = none)
      (htaken : Taken a origin wrapper taken)
      (hrelays : Relays taken origin (fun _ => False) result) : TickMove a result
  | called (origin : Origin) (wrapper : Json) (taken : Adapter) (sentAt : ℚ)
      (hfree : a.inflight = none) (htaken : Taken a origin wrapper taken) :
      TickMove a ({ taken with
          inflight := some ⟨requestIdOf wrapper, origin, taken.calls, taken.connectionGeneration,
            sentAt, none⟩,
          calls := taken.calls + 1 },
        [.called origin taken.calls wrapper taken.connectionGeneration])

section

variable {floats : FloatTexts} {deadlineS : ℚ} {a : Adapter} {origin : Origin}
variable {requestId detail outcome : String} {data value wrapper payload : Json}
variable {answers : TickAnswers} {inflight : Inflight} {reply : Reply} {keptAt : ℚ}
variable {good : Json → Prop}

theorem relays_reply (houtcome : (outcome == "ok") = false) :
    Relays a origin good (a, [a.respond origin (replyBody requestId outcome detail)]) where
  queue_eq := rfl
  inflight_eq := rfl
  arrivals_eq := rfl
  calls_eq := rfl
  connected_eq := rfl
  generation_eq := rfl
  emits emit hemit := by
    obtain rfl := List.mem_singleton.mp hemit
    refine Or.inl ⟨_, rfl, ?_⟩
    intro hok
    have hpart : part (replyBody requestId outcome detail) "outcome" = .str outcome := rfl
    rw [hpart] at hok
    simp only [isText, asText, Option.any_some, houtcome, Bool.false_eq_true] at hok

theorem relays_sendUnknown : Relays a origin good (a.sendUnknown origin requestId detail) := by
  have h := @relays_reply a origin requestId detail "unknown" good rfl
  exact ⟨rfl, rfl, rfl, rfl, rfl, rfl, h.emits⟩

theorem relays_relay (hgood : canonicalUuid (part value "request_id") = some inflight.requestId →
      good value) : Relays a inflight.origin good (a.relay inflight value keptAt) := by
  have hrespond : canonicalUuid (part value "request_id") = some inflight.requestId →
      Relays a inflight.origin good (a, [a.respond inflight.origin value]) := by
    intro hid
    refine ⟨rfl, rfl, rfl, rfl, rfl, rfl, ?_⟩
    intro emit hemit
    obtain rfl := List.mem_singleton.mp hemit
    exact Or.inl ⟨value, rfl, fun _ => hgood hid⟩
  unfold Adapter.relay
  split
  · exact relays_sendUnknown
  · rename_i fields hentries
    split
    · rename_i hid
      have hpart : part value "request_id" = Json.get fields "request_id" := by
        rw [part, hentries]
        rfl
      rw [← hpart] at hid
      dsimp only
      unfold Adapter.keep
      split
      · exact hrespond hid
      · split
        · refine ⟨rfl, rfl, rfl, rfl, rfl, rfl, ?_⟩
          intro emit hemit
          rcases List.mem_append.mp hemit with hkept | hemit
          · obtain rfl := List.mem_singleton.mp hkept
            exact Or.inr ⟨_, _, _, rfl⟩
          · obtain rfl := List.mem_singleton.mp hemit
            exact Or.inl ⟨value, rfl, fun _ => hgood hid⟩
        · exact hrespond hid
    · exact relays_sendUnknown

theorem relays_finish (hgood : ∀ value, reply = .data value →
      inflight.generation = a.connectionGeneration →
      canonicalUuid (part value "request_id") = some inflight.requestId → good value) :
    Relays a inflight.origin good (a.finish inflight reply keptAt) := by
  unfold Adapter.finish
  split
  · exact ⟨rfl, rfl, rfl, rfl, rfl, rfl, by simp⟩
  · rename_i hgeneration
    rw [ne_eq, not_not] at hgeneration
    split
    · exact relays_sendUnknown
    · exact relays_sendUnknown
    · exact relays_sendUnknown
    · exact relays_sendUnknown
    · exact relays_relay (hgood _ rfl hgeneration)

theorem tickMove_dispatch {taken : Adapter} (hfree : a.inflight = none)
    (htaken : Taken a origin wrapper taken) :
    TickMove a (taken.dispatch floats origin wrapper answers) := by
  unfold Adapter.dispatch
  split
  · exact .refused origin wrapper taken _ hfree htaken (relays_reply rfl)
  · split
    · exact .refused origin wrapper taken _ hfree htaken (relays_reply rfl)
    · split
      · exact .refused origin wrapper taken _ hfree htaken (relays_reply rfl)
      · split
        · exact .refused origin wrapper taken _ hfree htaken relays_sendUnknown
        · exact .called origin wrapper taken answers.sentAt hfree htaken

/-- A tick makes one of its moves. -/
theorem tickMove_tick : TickMove a (a.tick floats deadlineS answers) := by
  unfold Adapter.tick
  split
  · rename_i inflight hinflight
    unfold Adapter.settle
    split
    · rename_i reply hreply
      refine .settled inflight _ hinflight (relays_finish ?_)
      rintro value rfl hgeneration hid
      exact ⟨hreply, hgeneration, hid⟩
    · split
      · exact .settled inflight _ hinflight relays_sendUnknown
      · exact .idle
  · rename_i hfree
    split
    · rename_i origin wrapper rest hqueue
      exact tickMove_dispatch hfree (.queued origin wrapper rest hqueue)
    · rename_i hqueue
      split
      · rename_i hdue
        exact tickMove_dispatch hfree (.probe _ _ hqueue hdue.1)
      · exact .idle

/-- The moves of an arrival: it waits, or is turned away at once. -/
theorem enqueue_cases (payload : Json) :
    a.enqueue payload = ({ a with
        arrivals := a.arrivals + 1,
        queue := a.queue ++ [(.enqueued a.arrivals a.connectionGeneration, unwrap payload)] }, []) ∨
      Relays { a with arrivals := a.arrivals + 1 } (.enqueued a.arrivals a.connectionGeneration)
        (fun _ => False) (a.enqueue payload) := by
  unfold Adapter.enqueue
  dsimp only
  split
  · right
    have h := @relays_sendUnknown { a with arrivals := a.arrivals + 1, dropped := a.dropped + 1 }
      (.enqueued a.arrivals a.connectionGeneration) (requestIdOf (unwrap payload))
      "The tuning adapter is busy; the request was not dispatched." (fun _ => False)
    exact ⟨rfl, rfl, rfl, rfl, rfl, rfl, h.emits⟩
  · exact Or.inl rfl

end

/-! ### Where calls and answers come from -/

/-- The payloads that arrived, in order. -/
def payloads (history : List (AdapterEvent × List AdapterEmit)) : List Json :=
  history.filterMap fun segment => match segment.1 with
    | .enqueue payload => some payload
    | _ => none

/-- The numbers of the calls made. -/
def calledNumbers (emits : List AdapterEmit) : List Nat :=
  emits.filterMap fun emit => match emit with
    | .called _ call _ _ => some call
    | _ => none

/-- The numbers of the calls that are no longer awaited. -/
def endedNumbers (emits : List AdapterEmit) : List Nat :=
  emits.filterMap fun emit => match emit with
    | .ended call => some call
    | _ => none

/-- A wrapper that came with the payload of its number. -/
def Arrived (history : List (AdapterEvent × List AdapterEmit)) (origin : Origin)
    (wrapper : Json) : Prop :=
  ∃ token arrivedOn payload, origin = .enqueued token arrivedOn ∧
    (payloads history)[token]? = some payload ∧ wrapper = unwrap payload

/-- The call that is awaited was made, for a wrapper that arrived or for a
    probe, and its reply is the one its future was completed with. -/
def CallMade (history : List (AdapterEvent × List AdapterEmit)) (inflight : Inflight) : Prop :=
  ∃ wrapper,
    .called inflight.origin inflight.call wrapper inflight.generation ∈ outputs history ∧
    inflight.requestId = requestIdOf wrapper ∧
    (inflight.origin = .probe ∨ Arrived history inflight.origin wrapper) ∧
    ∀ reply, inflight.reply = some reply →
      .completed inflight.call reply ∈ history.map Prod.fst

/-- What the history says of the adapter. -/
structure Known (history : List (AdapterEvent × List AdapterEmit)) (a : Adapter) : Prop where
  arrivals_eq : a.arrivals = (payloads history).length
  called_eq : calledNumbers (outputs history) = List.range a.calls
  ended_eq : ∃ ended, endedNumbers (outputs history) = List.range ended ∧
    ended + a.inflight.isSome.toNat = a.calls
  call_last : ∀ inflight, a.inflight = some inflight → inflight.call + 1 = a.calls
  queue_from : ∀ entry ∈ a.queue, Arrived history entry.1 entry.2
  inflight_from : ∀ inflight, a.inflight = some inflight → CallMade history inflight

section

variable {floats : FloatTexts} {deadlineS : ℚ} {a : Adapter} {event : AdapterEvent}
variable {history : List (AdapterEvent × List AdapterEmit)} {emits : List AdapterEmit}

theorem payloads_append (before after : List (AdapterEvent × List AdapterEmit)) :
    payloads (before ++ after) = payloads before ++ payloads after := List.filterMap_append

theorem Arrived.append {origin : Origin} {wrapper : Json} (h : Arrived history origin wrapper) :
    Arrived (history ++ [(event, emits)]) origin wrapper := by
  obtain ⟨token, arrivedOn, payload, horigin, hpayload, hwrapper⟩ := h
  refine ⟨token, arrivedOn, payload, horigin, ?_, hwrapper⟩
  obtain ⟨hlt, -⟩ := List.getElem?_eq_some_iff.mp hpayload
  rw [payloads_append, List.getElem?_append_left hlt]
  exact hpayload

theorem CallMade.append {inflight : Inflight} (h : CallMade history inflight) :
    CallMade (history ++ [(event, emits)]) inflight := by
  obtain ⟨wrapper, hcalled, hid, horigin, hreply⟩ := h
  refine ⟨wrapper, ?_, hid, horigin.imp_right Arrived.append, ?_⟩
  · rw [outputs_append]
    exact List.mem_append_left _ hcalled
  · intro reply h
    rw [List.map_append]
    exact List.mem_append_left _ (hreply reply h)

theorem numbers_of_relays {origin : Origin} {good : Json → Prop}
    {result : Adapter × List AdapterEmit} (h : Relays a origin good result) :
    calledNumbers result.2 = [] ∧ endedNumbers result.2 = [] := by
  constructor
  · rw [calledNumbers, List.filterMap_eq_nil_iff]
    intro emit hemit
    rcases h.emits emit hemit with ⟨data, rfl, -⟩ | ⟨_, _, _, rfl⟩ <;> rfl
  · rw [endedNumbers, List.filterMap_eq_nil_iff]
    intro emit hemit
    rcases h.emits emit hemit with ⟨data, rfl, -⟩ | ⟨_, _, _, rfl⟩ <;> rfl

theorem calledNumbers_append (before after : List AdapterEmit) :
    calledNumbers (before ++ after) = calledNumbers before ++ calledNumbers after :=
  List.filterMap_append

theorem endedNumbers_append (before after : List AdapterEmit) :
    endedNumbers (before ++ after) = endedNumbers before ++ endedNumbers after :=
  List.filterMap_append

/-- A step that makes no call and ends none, and takes nothing up. -/
theorem Known.still {next : Adapter} (h : Known history a)
    (hpayloads : payloads [(event, emits)] = []) (hcalled : calledNumbers emits = [])
    (hended : endedNumbers emits = []) (hqueue : ∀ entry ∈ next.queue, entry ∈ a.queue)
    (hinflight : next.inflight = a.inflight) (harrivals : next.arrivals = a.arrivals)
    (hcalls : next.calls = a.calls) : Known (history ++ [(event, emits)]) next where
  arrivals_eq := by rw [harrivals, payloads_append, hpayloads, List.append_nil, h.arrivals_eq]
  called_eq := by
    rw [outputs_append, outputs_singleton, calledNumbers_append, hcalled, List.append_nil, hcalls,
      h.called_eq]
  ended_eq := by
    rw [outputs_append, outputs_singleton, endedNumbers_append, hended, List.append_nil, hcalls,
      hinflight]
    exact h.ended_eq
  call_last inflight hin := by
    rw [hcalls]
    exact h.call_last inflight (hinflight ▸ hin)
  queue_from entry hentry := (h.queue_from entry (hqueue entry hentry)).append
  inflight_from inflight hin := (h.inflight_from inflight (hinflight ▸ hin)).append

/-- A step that ends the awaited call. -/
theorem Known.freed {next : Adapter} {inflight : Inflight} (h : Known history a)
    (hpayloads : payloads [(event, .ended inflight.call :: emits)] = [])
    (hwas : a.inflight = some inflight) (hcalled : calledNumbers emits = [])
    (hended : endedNumbers emits = []) (hqueue : ∀ entry ∈ next.queue, entry ∈ a.queue)
    (hinflight : next.inflight = none) (harrivals : next.arrivals = a.arrivals)
    (hcalls : next.calls = a.calls) :
    Known (history ++ [(event, .ended inflight.call :: emits)]) next where
  arrivals_eq := by rw [harrivals, payloads_append, hpayloads, List.append_nil, h.arrivals_eq]
  called_eq := by
    have hnone : calledNumbers (.ended inflight.call :: emits) = [] := hcalled
    rw [outputs_append, outputs_singleton, calledNumbers_append, hnone, List.append_nil, hcalls,
      h.called_eq]
  ended_eq := by
    obtain ⟨ended, heq, hcount⟩ := h.ended_eq
    have hlast := h.call_last inflight hwas
    simp only [hwas, Option.isSome_some, Bool.toNat_true] at hcount
    obtain rfl : ended = inflight.call := by omega
    have hone : endedNumbers (.ended inflight.call :: emits) = [inflight.call] := by
      have hcons : endedNumbers (.ended inflight.call :: emits) =
          inflight.call :: endedNumbers emits := rfl
      rw [hcons, hended]
    refine ⟨inflight.call + 1, ?_, ?_⟩
    · rw [outputs_append, outputs_singleton, endedNumbers_append, heq, hone, List.range_succ]
    · rw [hinflight, hcalls]
      exact hlast
  call_last inflight hin := absurd hin (by simp [hinflight])
  queue_from entry hentry := (h.queue_from entry (hqueue entry hentry)).append
  inflight_from inflight hin := absurd hin (by simp [hinflight])

theorem taken_frame {origin : Origin} {wrapper : Json} {taken : Adapter}
    (h : Taken a origin wrapper taken) :
    (∀ entry ∈ taken.queue, entry ∈ a.queue) ∧ taken.inflight = a.inflight ∧
      taken.arrivals = a.arrivals ∧ taken.calls = a.calls ∧ taken.connected = a.connected ∧
      taken.connectionGeneration = a.connectionGeneration ∧
      (origin = .probe ∨ (origin, wrapper) ∈ a.queue) := by
  cases h with
  | queued _ _ rest hqueue =>
    refine ⟨?_, rfl, rfl, rfl, rfl, rfl, Or.inr ?_⟩
    · intro entry hentry
      rw [hqueue]
      exact List.mem_cons_of_mem _ hentry
    · rw [hqueue]
      exact List.mem_cons_self
  | probe id now hqueue hconnected =>
    exact ⟨fun entry hentry => hentry, rfl, rfl, rfl, rfl, rfl, Or.inl rfl⟩

theorem known_tick {answers : TickAnswers} (h : Known history a)
    {result : Adapter × List AdapterEmit} (hmove : TickMove a result) :
    Known (history ++ [(.tick answers, result.2)]) result.1 := by
  cases hmove with
  | idle => exact h.still rfl rfl rfl (fun entry hentry => hentry) rfl rfl rfl
  | settled inflight result hinflight hrelays =>
    obtain ⟨hcalled, hended⟩ := numbers_of_relays hrelays
    exact h.freed rfl hinflight hcalled hended
      (fun entry hentry => hrelays.queue_eq ▸ hentry) hrelays.inflight_eq hrelays.arrivals_eq
      hrelays.calls_eq
  | refused origin wrapper taken result hfree htaken hrelays =>
    obtain ⟨hcalled, hended⟩ := numbers_of_relays hrelays
    obtain ⟨hqueue, hin, harrivals, hcalls, -⟩ := taken_frame htaken
    exact h.still rfl hcalled hended (fun entry hentry => hqueue entry (hrelays.queue_eq ▸ hentry))
      (hrelays.inflight_eq.trans hin) (hrelays.arrivals_eq.trans harrivals)
      (hrelays.calls_eq.trans hcalls)
  | called origin wrapper taken sentAt hfree htaken =>
    obtain ⟨hqueue, hin, harrivals, hcalls, -, -, horigin⟩ := taken_frame htaken
    constructor
    · have hnone : payloads [(.tick answers, [AdapterEmit.called origin taken.calls wrapper
          taken.connectionGeneration])] = [] := rfl
      rw [payloads_append, hnone, List.append_nil]
      exact harrivals.trans h.arrivals_eq
    · have hone : calledNumbers [AdapterEmit.called origin taken.calls wrapper
          taken.connectionGeneration] = [taken.calls] := rfl
      rw [outputs_append, outputs_singleton, calledNumbers_append, h.called_eq, hone, hcalls,
        List.range_succ]
    · obtain ⟨ended, heq, hcount⟩ := h.ended_eq
      have hnone : endedNumbers [AdapterEmit.called origin taken.calls wrapper
          taken.connectionGeneration] = [] := rfl
      refine ⟨ended, ?_, ?_⟩
      · rw [outputs_append, outputs_singleton, endedNumbers_append, heq, hnone, List.append_nil]
      · simp only [hfree, Option.isSome_none, Bool.toNat_false, Nat.add_zero] at hcount
        simp only [Option.isSome_some, Bool.toNat_true, hcalls, hcount]
    · intro inflight hsome
      obtain rfl := Option.some.inj hsome
      rfl
    · exact fun entry hentry => (h.queue_from entry (hqueue entry hentry)).append
    · intro inflight hsome
      obtain rfl := Option.some.inj hsome
      refine ⟨wrapper, ?_, rfl, ?_, ?_⟩
      · rw [outputs_append, outputs_singleton]
        exact List.mem_append_right _ List.mem_cons_self
      · exact horigin.imp_right fun hmem => (h.queue_from _ hmem).append
      · intro reply hreply
        exact absurd hreply (by simp)

theorem known_enqueue (payload : Json) (h : Known history a) :
    Known (history ++ [(.enqueue payload, (a.enqueue payload).2)]) (a.enqueue payload).1 := by
  have hone : ∀ emits, payloads [(AdapterEvent.enqueue payload, emits)] = [payload] :=
    fun emits => rfl
  rcases enqueue_cases (a := a) payload with heq | hrelays
  · rw [heq]
    refine ⟨?_, ?_, ?_, h.call_last, ?_, fun inflight hin => (h.inflight_from inflight hin).append⟩
    · rw [payloads_append, hone, List.length_append, List.length_singleton, ← h.arrivals_eq]
    · rw [outputs_append, outputs_singleton, List.append_nil]
      exact h.called_eq
    · rw [outputs_append, outputs_singleton, List.append_nil]
      exact h.ended_eq
    · intro entry hentry
      rcases List.mem_append.mp hentry with hentry | hnew
      · exact (h.queue_from entry hentry).append
      · obtain rfl := List.mem_singleton.mp hnew
        refine ⟨a.arrivals, a.connectionGeneration, payload, rfl, ?_, rfl⟩
        rw [payloads_append, hone, h.arrivals_eq]
        simp
  · obtain ⟨hcalled, hended⟩ := numbers_of_relays hrelays
    refine ⟨?_, ?_, ?_, ?_, ?_, ?_⟩
    · rw [payloads_append, hone, List.length_append, List.length_singleton, ← h.arrivals_eq]
      exact hrelays.arrivals_eq
    · rw [outputs_append, outputs_singleton, calledNumbers_append, hcalled, List.append_nil,
        hrelays.calls_eq]
      exact h.called_eq
    · rw [outputs_append, outputs_singleton, endedNumbers_append, hended, List.append_nil,
        hrelays.calls_eq, hrelays.inflight_eq]
      exact h.ended_eq
    · intro inflight hin
      rw [hrelays.calls_eq]
      exact h.call_last inflight (hrelays.inflight_eq ▸ hin)
    · exact fun entry hentry => (h.queue_from entry (hrelays.queue_eq ▸ hentry)).append
    · exact fun inflight hin => (h.inflight_from inflight (hrelays.inflight_eq ▸ hin)).append

theorem known_completed (call : Nat) (reply : Reply) (h : Known history a) :
    Known (history ++ [(.completed call reply, (a.completed call reply).2)])
      (a.completed call reply).1 := by
  unfold Adapter.completed
  split
  · exact h.still rfl rfl rfl (fun entry hentry => hentry) rfl rfl rfl
  · rename_i inflight hinflight
    split
    · rename_i hits
      refine ⟨?_, ?_, ?_, ?_, ?_, ?_⟩
      · have hnone : payloads [(AdapterEvent.completed call reply,
            ([] : List AdapterEmit))] = [] := rfl
        rw [payloads_append, hnone, List.append_nil]
        exact h.arrivals_eq
      · rw [outputs_append, outputs_singleton, List.append_nil]
        exact h.called_eq
      · rw [outputs_append, outputs_singleton, List.append_nil]
        have hended := h.ended_eq
        rw [hinflight] at hended
        exact hended
      · intro next hnext
        obtain rfl := Option.some.inj hnext
        exact h.call_last inflight hinflight
      · exact fun entry hentry => (h.queue_from entry hentry).append
      · intro next hnext
        obtain rfl := Option.some.inj hnext
        obtain ⟨wrapper, hcalled, hid, horigin, -⟩ :=
          @CallMade.append (.completed call reply) _ [] _ (h.inflight_from inflight hinflight)
        refine ⟨wrapper, hcalled, hid, horigin, ?_⟩
        intro given hgiven
        obtain rfl := Option.some.inj hgiven
        rw [List.map_append, hits.1]
        exact List.mem_append_right _ List.mem_cons_self
    · exact h.still rfl rfl rfl (fun entry hentry => hentry) rfl rfl rfl

theorem known_disconnected (h : Known history a) :
    Known (history ++ [(.disconnected, a.disconnected.2)]) a.disconnected.1 := by
  unfold Adapter.disconnected
  dsimp only
  split
  · exact h.still rfl rfl rfl (by simp) rfl rfl rfl
  · rename_i inflight hinflight
    exact h.freed rfl hinflight rfl rfl (by simp) rfl rfl rfl

theorem known_step (event : AdapterEvent) (h : Known history a) :
    Known (history ++ [(event, ((rosTuning floats deadlineS).step a event).2)])
      ((rosTuning floats deadlineS).step a event).1 := by
  cases event with
  | enqueue payload => exact known_enqueue payload h
  | tick answers => exact known_tick h tickMove_tick
  | completed call reply => exact known_completed call reply h
  | disconnected => exact known_disconnected h
  | connect => exact h.still rfl rfl rfl (fun entry hentry => hentry) rfl rfl rfl
  | cut => exact h.still rfl rfl rfl (fun entry hentry => hentry) rfl rfl rfl
  | generationChange => exact h.still rfl rfl rfl (fun entry hentry => hentry) rfl rfl rfl

theorem known_run (events : List AdapterEvent) :
    Known ((rosTuning floats deadlineS).trace {} events)
      ((rosTuning floats deadlineS).run {} events) :=
  (rosTuning floats deadlineS).history_invariant Known
    (fun _ _ event _ h => known_step event h)
    ⟨rfl, rfl, ⟨0, rfl, rfl⟩, by simp, by simp, by simp⟩
    ((rosTuning floats deadlineS).along_true {} events)

/-- An `ok` response is the reply of the call that was awaited. -/
theorem ok_of_step {origin : Origin} {data : Json} {sent : Bool} {generation : Nat}
    (hmem : .response origin data sent generation ∈ ((rosTuning floats deadlineS).step a event).2)
    (hok : isText (part data "outcome") "ok" = true) :
    ∃ inflight, a.inflight = some inflight ∧ inflight.origin = origin ∧ Good a inflight data ∧
      sent = a.connected ∧ generation = a.connectionGeneration := by
  have hrelays : ∀ {b : Adapter} {from' : Origin} {good : Json → Prop}
      {result : Adapter × List AdapterEmit}, Relays b from' good result →
      .response origin data sent generation ∈ result.2 →
      from' = origin ∧ good data ∧ sent = b.connected ∧ generation = b.connectionGeneration := by
    intro b from' good result hrelays hmem
    rcases hrelays.emits _ hmem with ⟨value, hvalue, hgood⟩ | ⟨_, _, _, hkept⟩
    · simp only [Adapter.respond, AdapterEmit.response.injEq] at hvalue
      obtain ⟨rfl, rfl, rfl, rfl⟩ := hvalue
      exact ⟨rfl, hgood hok, rfl, rfl⟩
    · cases hkept
  cases event with
  | enqueue payload =>
    have hmem : .response origin data sent generation ∈ (a.enqueue payload).2 := hmem
    rcases enqueue_cases (a := a) payload with heq | hrefused
    · rw [heq] at hmem
      exact absurd hmem List.not_mem_nil
    · exact (hrelays hrefused hmem).2.1.elim
  | tick answers =>
    have hmove := @tickMove_tick floats deadlineS a answers
    have hmem : .response origin data sent generation ∈ (a.tick floats deadlineS answers).2 := hmem
    generalize a.tick floats deadlineS answers = moved at hmove hmem
    cases hmove with
    | idle => exact absurd hmem List.not_mem_nil
    | settled inflight result hinflight hsettled =>
      rcases List.mem_cons.mp hmem with hended | hmem
      · cases hended
      · obtain ⟨horigin, hgood, hsent, hgeneration⟩ := hrelays hsettled hmem
        exact ⟨inflight, hinflight, horigin, hgood, hsent, hgeneration⟩
    | refused from' wrapper taken _ hfree htaken hrefused =>
      exact (hrelays hrefused hmem).2.1.elim
    | called from' wrapper taken sentAt hfree htaken =>
      cases List.mem_singleton.mp hmem
  | completed call reply =>
    have hnone : (a.completed call reply).2 = [] := by
      unfold Adapter.completed
      split
      · rfl
      · split <;> rfl
    have hmem : .response origin data sent generation ∈ (a.completed call reply).2 := hmem
    rw [hnone] at hmem
    exact absurd hmem List.not_mem_nil
  | disconnected =>
    have hmem : .response origin data sent generation ∈ a.disconnected.2 := hmem
    unfold Adapter.disconnected at hmem
    dsimp only at hmem
    split at hmem
    · exact absurd hmem List.not_mem_nil
    · cases List.mem_singleton.mp hmem
  | connect => exact absurd hmem List.not_mem_nil
  | cut => exact absurd hmem List.not_mem_nil
  | generationChange => exact absurd hmem List.not_mem_nil

end

/-! ### After a disconnection -/

/-- Only wrappers from number `n` on are still to be called. -/
def Fresh (n : Nat) (a : Adapter) : Prop :=
  n ≤ a.arrivals ∧
    ∀ entry ∈ a.queue, ∀ token arrivedOn, entry.1 = .enqueued token arrivedOn → n ≤ token

section

variable {floats : FloatTexts} {deadlineS : ℚ} {a : Adapter} {n : Nat}

theorem fresh_of_frame {b : Adapter} (h : Fresh n a) (hqueue : ∀ entry ∈ b.queue, entry ∈ a.queue)
    (harrivals : b.arrivals = a.arrivals) : Fresh n b :=
  ⟨harrivals ▸ h.1, fun entry hentry => h.2 entry (hqueue entry hentry)⟩

theorem not_called_of_relays {origin : Origin} {good : Json → Prop} {call generation : Nat}
    {result : Adapter × List AdapterEmit} {from' : Origin} {wrapper : Json}
    (h : Relays a origin good result) : .called from' call wrapper generation ∉ result.2 := by
  intro hmem
  rcases h.emits _ hmem with ⟨data, hdata, -⟩ | ⟨_, _, _, hkept⟩
  · cases hdata
  · cases hkept

/-- What a step calls is fresh, and what it leaves is. -/
theorem fresh_step (h : Fresh n a) (event : AdapterEvent) :
    Fresh n ((rosTuning floats deadlineS).step a event).1 ∧
      ∀ token arrivedOn call wrapper generation,
        .called (.enqueued token arrivedOn) call wrapper generation ∈
          ((rosTuning floats deadlineS).step a event).2 → n ≤ token := by
  cases event with
  | enqueue payload =>
    change Fresh n (a.enqueue payload).1 ∧ ∀ token arrivedOn call wrapper generation,
      .called (.enqueued token arrivedOn) call wrapper generation ∈ (a.enqueue payload).2 →
        n ≤ token
    rcases enqueue_cases (a := a) payload with heq | hrelays
    · rw [heq]
      refine ⟨⟨Nat.le_succ_of_le h.1, ?_⟩, by simp⟩
      intro entry hentry token arrivedOn horigin
      rcases List.mem_append.mp hentry with hentry | hnew
      · exact h.2 entry hentry token arrivedOn horigin
      · obtain rfl := List.mem_singleton.mp hnew
        obtain ⟨rfl, rfl⟩ := Origin.enqueued.inj horigin
        exact h.1
    · refine ⟨⟨?_, ?_⟩, ?_⟩
      · rw [hrelays.arrivals_eq]
        exact Nat.le_succ_of_le h.1
      · exact fun entry hentry => h.2 entry (hrelays.queue_eq ▸ hentry)
      · exact fun _ _ _ _ _ hmem => absurd hmem (not_called_of_relays hrelays)
  | tick answers =>
    have hmove := @tickMove_tick floats deadlineS a answers
    change Fresh n (a.tick floats deadlineS answers).1 ∧ ∀ token arrivedOn call wrapper generation,
      .called (.enqueued token arrivedOn) call wrapper generation ∈
        (a.tick floats deadlineS answers).2 → n ≤ token
    generalize a.tick floats deadlineS answers = moved at hmove
    cases hmove with
    | idle => exact ⟨h, by simp⟩
    | settled inflight result hinflight hrelays =>
      refine ⟨fresh_of_frame h (fun entry hentry => hrelays.queue_eq ▸ hentry)
        hrelays.arrivals_eq, ?_⟩
      intro token arrivedOn call wrapper generation hmem
      rcases List.mem_cons.mp hmem with hended | hmem
      · cases hended
      · exact absurd hmem (not_called_of_relays hrelays)
    | refused origin wrapper taken _ hfree htaken hrelays =>
      obtain ⟨hqueue, -, harrivals, -⟩ := taken_frame htaken
      refine ⟨fresh_of_frame h (fun entry hentry => hqueue entry (hrelays.queue_eq ▸ hentry))
        (hrelays.arrivals_eq.trans harrivals), ?_⟩
      exact fun _ _ _ _ _ hmem => absurd hmem (not_called_of_relays hrelays)
    | called origin wrapper taken sentAt hfree htaken =>
      obtain ⟨hqueue, -, harrivals, -, -, -, horigin⟩ := taken_frame htaken
      refine ⟨fresh_of_frame h hqueue harrivals, ?_⟩
      intro token arrivedOn call sentWrapper generation hmem
      simp only [List.mem_singleton, AdapterEmit.called.injEq] at hmem
      obtain ⟨rfl, -, -, -⟩ := hmem
      rcases horigin with hprobe | hqueued
      · cases hprobe
      · exact h.2 _ hqueued token arrivedOn rfl
  | completed call reply =>
    change Fresh n (a.completed call reply).1 ∧ ∀ token arrivedOn call' wrapper generation,
      .called (.enqueued token arrivedOn) call' wrapper generation ∈
        (a.completed call reply).2 → n ≤ token
    unfold Adapter.completed
    split
    · exact ⟨h, by simp⟩
    · split
      · exact ⟨fresh_of_frame h (fun entry hentry => hentry) rfl, by simp⟩
      · exact ⟨h, by simp⟩
  | disconnected =>
    change Fresh n a.disconnected.1 ∧ ∀ token arrivedOn call wrapper generation,
      .called (.enqueued token arrivedOn) call wrapper generation ∈ a.disconnected.2 → n ≤ token
    unfold Adapter.disconnected
    dsimp only
    split
    · exact ⟨fresh_of_frame h (by simp) rfl, by simp⟩
    · exact ⟨fresh_of_frame h (by simp) rfl, by simp⟩
  | connect => exact ⟨h, by simp [rosTuning, Adapter.step]⟩
  | cut => exact ⟨h, by simp [rosTuning, Adapter.step]⟩
  | generationChange => exact ⟨h, by simp [rosTuning, Adapter.step]⟩

theorem fresh_run (h : Fresh n a) (events : List AdapterEvent) :
    ∀ token arrivedOn call wrapper generation,
      .called (.enqueued token arrivedOn) call wrapper generation ∈
        outputs ((rosTuning floats deadlineS).trace a events) → n ≤ token := by
  induction events generalizing a with
  | nil => simp [outputs]
  | cons event events ih =>
    intro token arrivedOn call wrapper generation hmem
    obtain ⟨hnext, hcalled⟩ := @fresh_step floats deadlineS a n h event
    rcases List.mem_append.mp hmem with hnow | hlater
    · exact hcalled token arrivedOn call wrapper generation hnow
    · exact ih hnext token arrivedOn call wrapper generation hlater

theorem fresh_disconnected : Fresh a.arrivals a.disconnected.1 := by
  unfold Adapter.disconnected
  dsimp only
  split
  · exact ⟨le_refl _, by simp⟩
  · exact ⟨le_refl _, by simp⟩

end

/-! ### In the order of the client -/

/-- Where `WsClient` stands: between sessions, in a session whose reader has
    read nothing yet, in one that has, with the flag cleared, with the new
    generation counted. -/
inductive WsPhase where
  | idle
  | ready
  | reading
  | cleared
  | counted
deriving DecidableEq

/-- The order in which `WsClient` takes its steps; those of the executor may
    come at any time. -/
def WsPhase.next : WsPhase → AdapterEvent → Option WsPhase
  | phase, .tick _ => some phase
  | phase, .completed _ _ => some phase
  | .idle, .generationChange => some .idle
  | .idle, .disconnected => some .idle
  | .idle, .cut => some .idle
  | .idle, .connect => some .ready
  | .ready, .enqueue _ => some .reading
  | .ready, .cut => some .idle
  | .reading, .enqueue _ => some .reading
  | .reading, .cut => some .cleared
  | .cleared, .generationChange => some .counted
  | .counted, .disconnected => some .idle
  | _, _ => none

/-- The steps of the transport come in the client's order. -/
def WsOrder : WsPhase → List AdapterEvent → Prop
  | _, [] => True
  | phase, event :: events => ∃ next, phase.next event = some next ∧ WsOrder next events

/-- The wrapper arrived on this generation, or is a probe. -/
def Origin.On (origin : Origin) (generation : Nat) : Prop :=
  ∀ token arrivedOn, origin = .enqueued token arrivedOn → arrivedOn = generation

/-- Of all that waits or is awaited. -/
def Holds (p : Origin → Prop) (a : Adapter) : Prop :=
  (∀ entry ∈ a.queue, p entry.1) ∧ ∀ inflight, a.inflight = some inflight → p inflight.origin

/-- What holds in each phase: while wrappers are read, all that waits or is
    awaited arrived on this connection; before, there are but probes. -/
def Synced : WsPhase → Adapter → Prop
  | .idle, a => a.connected = false ∧ Holds (· = .probe) a
  | .ready, a => a.connected = true ∧ Holds (· = .probe) a
  | .reading, a => a.connected = true ∧ Holds (·.On a.connectionGeneration) a
  | .cleared, a => a.connected = false
  | .counted, a => a.connected = false

section

variable {floats : FloatTexts} {deadlineS : ℚ} {a : Adapter} {phase next : WsPhase}
variable {p q : Origin → Prop}

theorem Holds.imp (h : Holds p a) (himp : ∀ origin, p origin → q origin) : Holds q a :=
  ⟨fun entry hentry => himp _ (h.1 entry hentry),
    fun inflight hinflight => himp _ (h.2 inflight hinflight)⟩

theorem on_of_probe {origin : Origin} {generation : Nat} (h : origin = .probe) :
    origin.On generation := by
  rintro token arrivedOn rfl
  cases h

/-- A response is for the wrapper it answers, on the connection as it stands. -/
theorem response_of_relays {origin from' : Origin} {good : Json → Prop} {data : Json} {sent : Bool}
    {generation : Nat} {result : Adapter × List AdapterEmit} (h : Relays a origin good result)
    (hmem : .response from' data sent generation ∈ result.2) :
    from' = origin ∧ sent = a.connected ∧ generation = a.connectionGeneration := by
  rcases h.emits _ hmem with ⟨value, hvalue, -⟩ | ⟨_, _, _, hkept⟩
  · simp only [Adapter.respond, AdapterEmit.response.injEq] at hvalue
    exact ⟨hvalue.1, hvalue.2.2.1, hvalue.2.2.2⟩
  · cases hkept

/-- A tick leaves the transport alone and answers for what was there. -/
theorem holds_tick {result : Adapter × List AdapterEmit} (hmove : TickMove a result)
    (hprobe : p .probe) (h : Holds p a) :
    Holds p result.1 ∧ result.1.connected = a.connected ∧
      result.1.connectionGeneration = a.connectionGeneration ∧
      ∀ origin data sent generation, .response origin data sent generation ∈ result.2 →
        p origin ∧ sent = a.connected ∧ generation = a.connectionGeneration := by
  cases hmove with
  | idle => exact ⟨h, rfl, rfl, by simp⟩
  | settled inflight result hinflight hrelays =>
    refine ⟨⟨?_, ?_⟩, hrelays.connected_eq, hrelays.generation_eq, ?_⟩
    · exact fun entry hentry => h.1 entry (hrelays.queue_eq ▸ hentry)
    · intro other hother
      rw [hrelays.inflight_eq] at hother
      cases hother
    · intro origin data sent generation hmem
      rcases List.mem_cons.mp hmem with hended | hmem
      · cases hended
      · obtain ⟨rfl, hsent, hgeneration⟩ := response_of_relays hrelays hmem
        exact ⟨h.2 inflight hinflight, hsent, hgeneration⟩
  | refused origin wrapper taken _ hfree htaken hrelays =>
    obtain ⟨hqueue, hin, -, -, hconnected, hgeneration, horigin⟩ := taken_frame htaken
    refine ⟨⟨?_, ?_⟩, hrelays.connected_eq.trans hconnected,
      hrelays.generation_eq.trans hgeneration, ?_⟩
    · exact fun entry hentry => h.1 entry (hqueue entry (hrelays.queue_eq ▸ hentry))
    · intro other hother
      rw [hrelays.inflight_eq, hin, hfree] at hother
      cases hother
    · intro from' data sent generation hmem
      obtain ⟨rfl, hsent, hat⟩ := response_of_relays hrelays hmem
      refine ⟨?_, hsent.trans hconnected, hat.trans hgeneration⟩
      rcases horigin with rfl | hqueued
      · exact hprobe
      · exact h.1 _ hqueued
  | called origin wrapper taken sentAt hfree htaken =>
    obtain ⟨hqueue, -, -, -, hconnected, hgeneration, horigin⟩ := taken_frame htaken
    refine ⟨⟨fun entry hentry => h.1 entry (hqueue entry hentry), ?_⟩, hconnected, hgeneration,
      by simp⟩
    intro other hother
    obtain rfl := Option.some.inj hother
    rcases horigin with rfl | hqueued
    · exact hprobe
    · exact h.1 _ hqueued

theorem holds_completed {call : Nat} {reply : Reply} (h : Holds p a) :
    Holds p (a.completed call reply).1 ∧ (a.completed call reply).2 = [] ∧
      (a.completed call reply).1.connected = a.connected ∧
      (a.completed call reply).1.connectionGeneration = a.connectionGeneration := by
  unfold Adapter.completed
  split
  · exact ⟨h, rfl, rfl, rfl⟩
  · rename_i inflight hinflight
    split
    · refine ⟨⟨h.1, ?_⟩, rfl, rfl, rfl⟩
      intro other hother
      obtain rfl := Option.some.inj hother
      exact h.2 inflight hinflight
    · exact ⟨h, rfl, rfl, rfl⟩

theorem holds_disconnected : Holds p a.disconnected.1 ∧
    a.disconnected.1.connected = a.connected ∧
    ∀ origin data sent generation, .response origin data sent generation ∉ a.disconnected.2 := by
  unfold Adapter.disconnected
  dsimp only
  split
  · rename_i hfree
    exact ⟨⟨by simp, by simp [hfree]⟩, rfl, by simp⟩
  · exact ⟨⟨by simp, by simp⟩, rfl, by simp⟩

theorem holds_enqueue {payload : Json} (h : Holds p a)
    (hnew : p (.enqueued a.arrivals a.connectionGeneration)) :
    Holds p (a.enqueue payload).1 ∧ (a.enqueue payload).1.connected = a.connected ∧
      (a.enqueue payload).1.connectionGeneration = a.connectionGeneration ∧
      ∀ origin data sent generation, .response origin data sent generation ∈ (a.enqueue payload).2 →
        p origin ∧ sent = a.connected ∧ generation = a.connectionGeneration := by
  rcases enqueue_cases (a := a) payload with heq | hrelays
  · rw [heq]
    refine ⟨⟨?_, h.2⟩, rfl, rfl, by simp⟩
    intro entry hentry
    rcases List.mem_append.mp hentry with hentry | hlast
    · exact h.1 entry hentry
    · obtain rfl := List.mem_singleton.mp hlast
      exact hnew
  · refine ⟨⟨?_, ?_⟩, hrelays.connected_eq, hrelays.generation_eq, ?_⟩
    · exact fun entry hentry => h.1 entry (hrelays.queue_eq ▸ hentry)
    · exact fun inflight hinflight => h.2 inflight (hrelays.inflight_eq ▸ hinflight)
    · intro origin data sent generation hmem
      obtain ⟨rfl, hsent, hgeneration⟩ := response_of_relays hrelays hmem
      exact ⟨hnew, hsent, hgeneration⟩

/-- What is sent goes out on the connection it arrived on. -/
def SentOn (emits : List AdapterEmit) : Prop :=
  ∀ origin data generation, .response origin data true generation ∈ emits → origin.On generation

theorem holds_true : Holds (fun _ => True) a := ⟨by simp, by simp⟩

theorem synced_tick {result : Adapter × List AdapterEmit} (hmove : TickMove a result)
    (h : Synced phase a) : Synced phase result.1 ∧ SentOn result.2 := by
  have hdown : a.connected = false → result.1.connected = false ∧ SentOn result.2 := by
    intro hoff
    obtain ⟨-, hconnected, -, hsent⟩ := holds_tick hmove trivial holds_true
    refine ⟨hconnected.trans hoff, ?_⟩
    intro origin data generation hmem
    have hon := (hsent origin data true generation hmem).2.1
    exact absurd (hon.trans hoff) (by simp)
  cases phase with
  | idle =>
    obtain ⟨hheld, -⟩ := @holds_tick a (· = .probe) result hmove rfl h.2
    obtain ⟨hoff, hsent⟩ := hdown h.1
    exact ⟨⟨hoff, hheld⟩, hsent⟩
  | ready =>
    obtain ⟨hheld, hconnected, -, hsent⟩ := @holds_tick a (· = .probe) result hmove rfl h.2
    refine ⟨⟨hconnected.trans h.1, hheld⟩, ?_⟩
    exact fun origin data generation hmem => on_of_probe (hsent origin data true generation hmem).1
  | reading =>
    obtain ⟨hheld, hconnected, hgeneration, hsent⟩ :=
      @holds_tick a (·.On a.connectionGeneration) result hmove (on_of_probe rfl) h.2
    refine ⟨⟨hconnected.trans h.1, ?_⟩, ?_⟩
    · rw [hgeneration]
      exact hheld
    · intro origin data generation hmem
      obtain ⟨hon, -, hat⟩ := hsent origin data true generation hmem
      exact hat ▸ hon
  | cleared => exact hdown h
  | counted => exact hdown h

theorem synced_completed {call : Nat} {reply : Reply} (h : Synced phase a) :
    Synced phase (a.completed call reply).1 ∧ SentOn (a.completed call reply).2 := by
  obtain ⟨-, hnone, hconnected, hgeneration⟩ :=
    @holds_completed a (fun _ => True) call reply holds_true
  have hsent : SentOn (a.completed call reply).2 := by
    rw [hnone]
    exact fun _ _ _ hmem => absurd hmem List.not_mem_nil
  refine ⟨?_, hsent⟩
  cases phase with
  | idle => exact ⟨hconnected.trans h.1, (holds_completed h.2).1⟩
  | ready => exact ⟨hconnected.trans h.1, (holds_completed h.2).1⟩
  | reading =>
    refine ⟨hconnected.trans h.1, ?_⟩
    rw [hgeneration]
    exact (holds_completed h.2).1
  | cleared => exact hconnected.trans h
  | counted => exact hconnected.trans h

theorem synced_enqueue {payload : Json} (hon : a.connected = true)
    (h : Holds (·.On a.connectionGeneration) a) :
    Synced .reading (a.enqueue payload).1 ∧ SentOn (a.enqueue payload).2 := by
  obtain ⟨hheld, hconnected, hgeneration, hsent⟩ :=
    @holds_enqueue a (·.On a.connectionGeneration) payload h (by rintro _ _ ⟨⟩; rfl)
  refine ⟨⟨hconnected.trans hon, ?_⟩, ?_⟩
  · rw [hgeneration]
    exact hheld
  · intro origin data generation hmem
    obtain ⟨hat, -, hnow⟩ := hsent origin data true generation hmem
    exact hnow ▸ hat

/-- In the client's order what is sent goes out on the connection it arrived
    on, and the phase stays in step. -/
theorem synced_step (event : AdapterEvent) (h : Synced phase a)
    (hnext : phase.next event = some next) :
    Synced next ((rosTuning floats deadlineS).step a event).1 ∧
      SentOn ((rosTuning floats deadlineS).step a event).2 := by
  have hquiet : SentOn [] := fun _ _ _ hmem => absurd hmem List.not_mem_nil
  cases event with
  | tick answers =>
    obtain rfl : phase = next := by cases phase <;> exact Option.some.inj hnext
    exact synced_tick tickMove_tick h
  | completed call reply =>
    obtain rfl : phase = next := by cases phase <;> exact Option.some.inj hnext
    exact synced_completed h
  | enqueue payload =>
    cases phase with
    | ready =>
      obtain rfl := Option.some.inj hnext
      exact synced_enqueue h.1 (h.2.imp fun _ => on_of_probe)
    | reading =>
      obtain rfl := Option.some.inj hnext
      exact synced_enqueue h.1 h.2
    | _ => exact absurd hnext (by simp [WsPhase.next])
  | connect =>
    cases phase with
    | idle =>
      obtain rfl := Option.some.inj hnext
      exact ⟨⟨rfl, h.2⟩, hquiet⟩
    | _ => exact absurd hnext (by simp [WsPhase.next])
  | cut =>
    cases phase with
    | idle =>
      obtain rfl := Option.some.inj hnext
      exact ⟨⟨rfl, h.2⟩, hquiet⟩
    | ready =>
      obtain rfl := Option.some.inj hnext
      exact ⟨⟨rfl, h.2⟩, hquiet⟩
    | reading =>
      obtain rfl := Option.some.inj hnext
      exact ⟨rfl, hquiet⟩
    | _ => exact absurd hnext (by simp [WsPhase.next])
  | generationChange =>
    cases phase with
    | idle =>
      obtain rfl := Option.some.inj hnext
      exact ⟨h, hquiet⟩
    | cleared =>
      obtain rfl := Option.some.inj hnext
      exact ⟨h, hquiet⟩
    | _ => exact absurd hnext (by simp [WsPhase.next])
  | disconnected =>
    obtain ⟨hheld, hconnected, hsilent⟩ := @holds_disconnected a (· = .probe)
    have hsent : SentOn a.disconnected.2 :=
      fun origin data generation hmem => absurd hmem (hsilent origin data true generation)
    cases phase with
    | idle =>
      obtain rfl := Option.some.inj hnext
      exact ⟨⟨hconnected.trans h.1, hheld⟩, hsent⟩
    | counted =>
      obtain rfl := Option.some.inj hnext
      exact ⟨⟨hconnected.trans h, hheld⟩, hsent⟩
    | _ => exact absurd hnext (by simp [WsPhase.next])

theorem sentOn_run (events : List AdapterEvent) (h : Synced phase a)
    (horder : WsOrder phase events) :
    SentOn (outputs ((rosTuning floats deadlineS).trace a events)) := by
  induction events generalizing a phase with
  | nil => exact fun _ _ _ hmem => absurd hmem List.not_mem_nil
  | cons event events ih =>
    obtain ⟨next, hnext, horder⟩ := horder
    obtain ⟨hsynced, hsent⟩ := @synced_step floats deadlineS a phase next event h hnext
    intro origin data generation hmem
    rcases List.mem_append.mp hmem with hnow | hlater
    · exact hsent origin data generation hnow
    · exact ih hsynced horder origin data generation hlater

end

/-! ### The adapter over every run -/

/-- Over every sequence of steps at most one call is awaited, a wrapper is
    called once and answered once at most, an `ok` response is the core's reply
    to that call and request on the generation of the call, and nothing that
    came before a disconnection is called after it.  In the order in which the
    client takes its steps, what is sent goes out on the generation it arrived
    on. -/
theorem adapter_run (floats : FloatTexts) (deadlineS : ℚ) (events : List AdapterEvent) :
    let history := (rosTuning floats deadlineS).trace {} events
    (∃ made ended, calledNumbers (outputs history) = List.range made ∧
      endedNumbers (outputs history) = List.range ended ∧ ended ≤ made ∧ made ≤ ended + 1) ∧
    (∀ token, (outputs history).countP (·.isCallOf token) ≤ 1 ∧
      (outputs history).countP (·.isResponseOf token) ≤ 1) ∧
    (∀ before event emits after, history = before ++ (event, emits) :: after →
      ∀ origin data sent generation, .response origin data sent generation ∈ emits →
        isText (part data "outcome") "ok" = true →
        ∃ call wrapper, .called origin call wrapper generation ∈ outputs before ∧
          .completed call (.data data) ∈ before.map Prod.fst ∧
          canonicalUuid (part data "request_id") = some (requestIdOf wrapper) ∧
          (origin = .probe ∨ Arrived before origin wrapper)) ∧
    (∀ before emits after, history = before ++ (.disconnected, emits) :: after →
      ∀ token arrivedOn call wrapper generation,
        .called (.enqueued token arrivedOn) call wrapper generation ∈ outputs after →
        (payloads before).length ≤ token) ∧
    (WsOrder .idle events → ∀ token arrivedOn data generation,
      .response (.enqueued token arrivedOn) data true generation ∈ outputs history →
      arrivedOn = generation) := by
  refine ⟨?_, once_run events, ?_, ?_, ?_⟩
  · have hknown := @known_run floats deadlineS events
    obtain ⟨ended, hended, hcount⟩ := hknown.ended_eq
    refine ⟨_, ended, hknown.called_eq, hended, by omega, ?_⟩
    have hone := Bool.toNat_le
      ((rosTuning floats deadlineS).run {} events).inflight.isSome
    omega
  · intro before event emits after htrace origin data sent generation hmem hok
    obtain ⟨fs, e, gs, -, rfl, hsegment⟩ := (rosTuning floats deadlineS).exists_of_trace_eq htrace
    obtain ⟨rfl, rfl⟩ := Prod.mk.inj hsegment
    obtain ⟨inflight, hinflight, rfl, hgood, -, rfl⟩ := ok_of_step hmem hok
    have hknown := @known_run floats deadlineS fs
    obtain ⟨wrapper, hcalled, hid, horigin, hreply⟩ := hknown.inflight_from inflight hinflight
    refine ⟨inflight.call, wrapper, hgood.2.1 ▸ hcalled, hreply _ hgood.1, ?_, horigin⟩
    rw [hgood.2.2, hid]
  · intro before emits after htrace token arrivedOn call wrapper generation hmem
    obtain ⟨fs, e, gs, rfl, rfl, hsegment⟩ := (rosTuning floats deadlineS).exists_of_trace_eq htrace
    obtain ⟨rfl, rfl⟩ := Prod.mk.inj hsegment
    rw [Machine.trace_append, Machine.trace_cons, List.append_cancel_left_eq] at htrace
    obtain ⟨-, rfl⟩ := List.cons.inj htrace
    have hknown := @known_run floats deadlineS fs
    rw [← hknown.arrivals_eq]
    exact fresh_run fresh_disconnected gs token arrivedOn call wrapper generation hmem
  · intro horder token arrivedOn data generation hmem
    have hinit : Synced .idle {} := ⟨rfl, by simp, by simp⟩
    exact sentOn_run events hinit horder _ data generation hmem token arrivedOn rfl

/-! ### Out of the client's order -/

/-- A reading the bridge lets through. -/
def sampleWrapper : Json := probeWrapper sampleId

/-- The core's answer to it. -/
def sampleReply : Json :=
  .obj [("request_id", .str sampleId), ("outcome", .str "ok"), ("detail", .str ""),
    ("snapshot", .null), ("job", .null)]

def atSecond (now : ℚ) : TickAnswers := { now := now, sentAt := now, keptAt := now }

/-- The wrapper and the generation of an `ok` response that was sent. -/
def sentOk : AdapterEmit → Option (Origin × Nat)
  | .response origin data true generation =>
    if isText (part data "outcome") "ok" then some (origin, generation) else none
  | _ => none

/-- A generation counted while a request waits: it arrived on the first and is
    answered on the second.  And a call that ran out of time is still the core's
    when the next one is made. -/
theorem not_adapter_run :
    (outputs ((rosTuning wireFloats 30).trace {} [.connect, .enqueue sampleWrapper,
      .generationChange, .tick (atSecond 0), .completed 0 (.data sampleReply),
      .tick (atSecond 1)])).filterMap sentOk = [(.enqueued 0 0, 1)] ∧
    calledNumbers (outputs ((rosTuning wireFloats 30).trace {} [.connect, .enqueue sampleWrapper,
      .enqueue sampleWrapper, .tick (atSecond 0), .tick (atSecond 31), .tick (atSecond 32)])) =
      [0, 1] := by
  decide +kernel

end PatrolBot.Tuning.Bridge
