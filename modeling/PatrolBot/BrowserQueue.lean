import Mathlib.Data.List.Induction
import PatrolBot.Library.Machine
import PatrolBot.Library.Shedding

/-!
# A browser's outbound queue

`BrowserClient` of `telemetry/hub.py`: the frames a browser is still to be sent, each with
whether it is protected.  Back-pressure sheds unprotected frames only; a client that is
behind by a queue of protected ones is condemned and resyncs from a new snapshot.
-/

namespace PatrolBot.Hub

/-- `QUEUE_LIMIT`. -/
def queueLimit : Nat := 64

/-- A frame's text, and whether it is protected. -/
abbrev QueuedFrame := String × Bool

structure BrowserClient where
  queue : List QueuedFrame := []
  overloaded : Bool := false
  dropped : Nat := 0
  /-- The sender has closed the socket and returned. -/
  closed : Bool := false

namespace BrowserClient

variable (client : BrowserClient)

/-- `_evict_unprotected`; `none` says that there is no expendable frame. -/
def evictUnprotected : Option BrowserClient :=
  if client.queue.all Prod.snd then none
  else some { client with
    queue := client.queue.eraseP fun queued => !queued.2
    dropped := client.dropped + 1 }

/-- The newest frame, put last. -/
def append (frame : QueuedFrame) : BrowserClient :=
  { client with queue := client.queue ++ [frame] }

/-- `offer`. -/
def offer (frame : QueuedFrame) : BrowserClient :=
  if client.overloaded then client
  else if client.queue.length < queueLimit then client.append frame
  else match client.evictUnprotected with
    | none => { client with overloaded := true }
    | some evicted => evicted.append frame

/-- One round of `sender`; it waits on an empty queue. -/
def sendNext : BrowserClient × List QueuedFrame :=
  if client.closed then (client, [])
  else if client.overloaded then ({ client with closed := true }, [])
  else match client.queue with
    | [] => (client, [])
    | frame :: queue => ({ client with queue := queue }, [frame])

end BrowserClient

inductive ClientEvent where
  | offer (frame : QueuedFrame)
  | sendNext

/-- The client as a machine; its outputs are the frames it sends. -/
def browserClient : Machine BrowserClient ClientEvent QueuedFrame where
  step client
    | .offer frame => (client.offer frame, [])
    | .sendNext => client.sendNext

/-- The frames that the events offer. -/
def offered : List ClientEvent → List QueuedFrame :=
  List.filterMap fun event => match event with
    | .offer frame => some frame
    | .sendNext => none

/-- The frames a run has sent. -/
def sent (events : List ClientEvent) : List QueuedFrame :=
  (browserClient.trace {} events).flatMap Prod.snd

/-- What holds of the queue after the events. -/
structure QueueLaw (events : List ClientEvent) : Prop where
  bounded : (browserClient.run {} events).queue.length ≤ queueLimit
  ordered : (browserClient.run {} events).overloaded = false →
    (sent events ++ (browserClient.run {} events).queue).Sublist (offered events)
  spared : (browserClient.run {} events).overloaded = false →
    (sent events ++ (browserClient.run {} events).queue).filter Prod.snd =
      (offered events).filter Prod.snd
  condemned : (browserClient.run {} events).overloaded = true → ∀ more,
    (browserClient.run {} (events ++ more)).queue = (browserClient.run {} events).queue ∧
      sent (events ++ more) = sent events

/-! ### One event -/

variable {client : BrowserClient}

/-- An offer to a client that keeps up is the queue's; a refusal condemns the client. -/
theorem offer_cases (hlive : client.overloaded = false) (frame : QueuedFrame) :
    (∃ queue, Shedding.offer queueLimit Prod.snd client.queue frame = some queue ∧
      (client.offer frame).queue = queue ∧ (client.offer frame).overloaded = false) ∨
    client.offer frame = { client with overloaded := true } := by
  unfold BrowserClient.offer
  rw [hlive, if_neg Bool.false_ne_true]
  by_cases hroom : client.queue.length < queueLimit
  · rw [if_pos hroom]
    left
    exact ⟨client.queue ++ [frame], if_pos hroom, rfl, hlive⟩
  · rw [if_neg hroom, BrowserClient.evictUnprotected]
    by_cases hall : client.queue.all Prod.snd = true
    · rw [if_pos hall]
      exact Or.inr rfl
    · rw [if_neg hall]
      left
      refine ⟨client.queue.eraseP (fun queued => !queued.2) ++ [frame], ?_, rfl, hlive⟩
      rw [Shedding.offer, if_neg hroom, if_neg hall]

/-- A condemned client takes nothing and sends nothing. -/
theorem step_of_overloaded (h : client.overloaded = true) (event : ClientEvent) :
    (browserClient.step client event).1.overloaded = true ∧
      (browserClient.step client event).1.queue = client.queue ∧
      (browserClient.step client event).2 = [] := by
  cases event with
  | offer frame => simp [browserClient, BrowserClient.offer, h]
  | sendNext =>
    unfold browserClient BrowserClient.sendNext
    by_cases hclosed : client.closed = true
    · simp [hclosed, h]
    · simp [hclosed, h]

/-- The sender of a client that keeps up takes the oldest frame, if it takes one. -/
theorem sendNext_live (hlive : client.overloaded = false) :
    client.sendNext.1.overloaded = false ∧
      client.sendNext.2 ++ client.sendNext.1.queue = client.queue := by
  unfold BrowserClient.sendNext
  rw [hlive, if_neg Bool.false_ne_true]
  split
  · exact ⟨hlive, rfl⟩
  · cases hqueue : client.queue with
    | nil => exact ⟨hlive, hqueue⟩
    | cons frame queue => exact ⟨rfl, rfl⟩

/-! ### Runs -/

/-- The law with what was sent and offered so far. -/
structure Lawful (sent offered : List QueuedFrame) (client : BrowserClient) : Prop where
  bounded : client.queue.length ≤ queueLimit
  ordered : client.overloaded = false → (sent ++ client.queue).Sublist offered
  spared : client.overloaded = false →
    (sent ++ client.queue).filter Prod.snd = offered.filter Prod.snd

variable {before offers : List QueuedFrame}

theorem Lawful.offer (h : Lawful before offers client) (frame : QueuedFrame) :
    Lawful before (offers ++ [frame]) (client.offer frame) := by
  cases hover : client.overloaded with
  | true =>
    have hsame : client.offer frame = client := by simp [BrowserClient.offer, hover]
    rw [hsame]
    exact ⟨h.bounded, fun hlive => absurd (hover.symm.trans hlive) (by decide),
      fun hlive => absurd (hover.symm.trans hlive) (by decide)⟩
  | false =>
    rcases offer_cases hover frame with ⟨queue, hoffer, hqueue, -⟩ | hcondemned
    · constructor
      · rw [hqueue]
        exact Shedding.length_offer_le h.bounded hoffer
      · intro _
        rw [hqueue]
        apply ((List.Sublist.refl before).append (Shedding.sublist_of_offer hoffer)).trans
        rw [← List.append_assoc]
        exact (h.ordered hover).append (List.Sublist.refl [frame])
      · intro _
        rw [hqueue, List.filter_append, Shedding.filter_offer hoffer, ← List.filter_append,
          ← List.append_assoc, List.filter_append, h.spared hover, List.filter_append]
    · rw [hcondemned]
      exact ⟨h.bounded, nofun, nofun⟩

theorem Lawful.sendNext (h : Lawful before offers client) :
    Lawful (before ++ client.sendNext.2) offers client.sendNext.1 := by
  cases hover : client.overloaded with
  | true =>
    obtain ⟨hstays, hqueue, hnothing⟩ := step_of_overloaded hover .sendNext
    simp only [browserClient] at hstays hqueue hnothing
    constructor
    · rw [hqueue]
      exact h.bounded
    · intro hlive
      rw [hstays] at hlive
      cases hlive
    · intro hlive
      rw [hstays] at hlive
      cases hlive
  | false =>
    obtain ⟨hlive, hqueue⟩ := sendNext_live hover
    constructor
    · have hlength := congrArg List.length hqueue
      rw [List.length_append] at hlength
      have hbound := h.bounded
      omega
    · intro _
      rw [List.append_assoc, hqueue]
      exact h.ordered hover
    · intro _
      rw [List.append_assoc, hqueue]
      exact h.spared hover

theorem lawful_run (events : List ClientEvent) :
    Lawful (sent events) (offered events) (browserClient.run {} events) := by
  induction events using List.reverseRecOn with
  | nil => exact ⟨Nat.zero_le _, fun _ => List.Sublist.refl _, fun _ => rfl⟩
  | append_singleton events event ih =>
    rw [sent, offered, browserClient.trace_append, browserClient.run_append,
      List.flatMap_append, List.filterMap_append]
    cases event with
    | offer frame => simpa [sent, offered, browserClient] using ih.offer frame
    | sendNext => simpa [sent, offered, browserClient] using ih.sendNext

theorem condemned_run {events : List ClientEvent} (h : client.overloaded = true) :
    (browserClient.run client events).queue = client.queue ∧
      (browserClient.trace client events).flatMap Prod.snd = [] := by
  induction events generalizing client with
  | nil => exact ⟨rfl, rfl⟩
  | cons event events ih =>
    obtain ⟨hstays, hqueue, hnothing⟩ := step_of_overloaded h event
    obtain ⟨hkept, hsilent⟩ := ih hstays
    rw [Machine.run_cons, Machine.trace_cons, List.flatMap_cons, hnothing, hsilent, hkept, hqueue]
    exact ⟨rfl, rfl⟩

/-- In every run the queue is bounded, what was sent and what is queued stand in the order
    they were offered with every protected frame among them, and a client that is
    overloaded takes and sends nothing more. -/
theorem queueLaw_run (events : List ClientEvent) : QueueLaw events := by
  obtain ⟨hbounded, hordered, hspared⟩ := lawful_run events
  refine ⟨hbounded, hordered, hspared, ?_⟩
  intro hover more
  obtain ⟨hqueue, hsilent⟩ := @condemned_run _ more hover
  constructor
  · rw [browserClient.run_append, hqueue]
  · rw [sent, browserClient.trace_append, List.flatMap_append, hsilent, List.append_nil, sent]

end PatrolBot.Hub
