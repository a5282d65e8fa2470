import PatrolBot.Library.Machine
import PatrolBot.Py

/-!
# Announcing the robot's capabilities

`patrolbot_web_bridge/ws_client.py`: the hello at the start of a session, the hello that
follows a change of the dock capabilities, and the queue of frames the second goes
through.  Of the other frames only what the queue looks at is kept.
-/

namespace PatrolBot.Bridge

def baseCapabilities : List String :=
  ["pose", "lidar", "path", "battery", "base_state", "diagnostics", "resources", "map"]

/-- A frame of the queue: a hello with its capabilities, or another frame with its type
    and the other strings of its text. -/
inductive WireFrame where
  | hello (capabilities : List String)
  | other (type : String) (texts : List String)

namespace WireFrame

/-- The frame's text contains the name in quotes. -/
def mentions (name : String) : WireFrame → Bool
  | hello capabilities => name == "robot.hello" || capabilities.contains name
  | other type texts => name == type || texts.contains name

/-- A frame that back-pressure spares: one with a marker of `_PROTECTED_MARKERS`. -/
def isProtected (frame : WireFrame) : Bool :=
  frame.mentions "robot.hello" || frame.mentions "telemetry.map" || frame.mentions "tuning.response"

/-- A frame that does not outlive its session. -/
def isTransient (frame : WireFrame) : Bool :=
  frame.mentions "tuning.response" || frame.mentions "telemetry.motion"

def hello? : WireFrame → Option (List String)
  | hello capabilities => some capabilities
  | other _ _ => none

end WireFrame

/-- `QUEUE_LIMIT`. -/
def queueLimit : Nat := 256

/-- The queue after a frame was put into it; a full one drops its oldest unprotected
    frame for it, and `none` says that there is no such frame. -/
def enqueue (queue : List WireFrame) (frame : WireFrame) : Option (List WireFrame) :=
  if queue.length < queueLimit then some (queue ++ [frame])
  else if queue.all WireFrame.isProtected then none
  else some (queue.eraseP (fun queued => !queued.isProtected) ++ [frame])

/-- Where `_session` stands. -/
inductive SessionStage where
  | closed
  /-- The hello is sent and its answer awaited. -/
  | greeting
  /-- Frames are sent. -/
  | serving
  /-- `connected` is cleared and the queue not purged yet. -/
  | ending
deriving DecidableEq

/-- Where `set_dock_capabilities` stands; it has one caller. -/
inductive AnnounceStage where
  | idle
  /-- It has recorded the list it was called with. -/
  | recorded
  /-- It has found that there is something to announce, and a connection. -/
  | due
deriving DecidableEq

structure WsClient where
  dockCapabilities : List String := []
  capabilitiesDirty : Bool := false
  connected : Bool := false
  queue : List WireFrame := []
  session : SessionStage := .closed
  announcing : AnnounceStage := .idle
  /-- The capabilities of the last hello sent on the present connection. -/
  lastSent : Option (List String) := none

inductive HelloEvent where
  /-- `set_dock_capabilities` is called and records its list. -/
  | setDockCapabilities (capabilities : List String)
  /-- It looks whether there is something to announce. -/
  | check
  /-- It announces. -/
  | announce
  /-- `send` of another frame. -/
  | send (type : String) (texts : List String)
  /-- `_session` has a socket and sends its hello. -/
  | greet
  /-- The answer to the hello comes and `connected` is set. -/
  | acknowledged
  /-- The answer does not come. -/
  | failed
  /-- The next frame of the queue is sent. -/
  | sendNext
  /-- The session ends. -/
  | disconnect
  | purge

namespace WsClient

variable (client : WsClient)

def capabilities : List String :=
  baseCapabilities ++ client.dockCapabilities

/-- `set_dock_capabilities`, up to the check of the connection. -/
def setDockCapabilities (capabilities : List String) : WsClient :=
  if capabilities = client.dockCapabilities then { client with announcing := .recorded }
  else { client with
    dockCapabilities := capabilities, capabilitiesDirty := true, announcing := .recorded }

/-- Its check. -/
def checkAnnounce : WsClient :=
  if client.capabilitiesDirty && client.connected then { client with announcing := .due }
  else { client with announcing := .idle }

/-- Its announcement; the queue may refuse the hello. -/
def announce : WsClient :=
  { client with
    queue := (enqueue client.queue (.hello client.capabilities)).getD client.queue
    capabilitiesDirty := false
    announcing := .idle }

/-- `send` of a frame that is not a hello. -/
def send (type : String) (texts : List String) : WsClient :=
  if (type = "tuning.response" ∨ type = "telemetry.motion") ∧ client.connected = false then client
  else { client with queue := (enqueue client.queue (.other type texts)).getD client.queue }

/-- The next frame of the queue is sent. -/
def sendNext : WsClient :=
  match client.queue with
  | [] => client
  | frame :: queue => { client with queue := queue, lastSent := frame.hello?.or client.lastSent }

/-- One event; a step out of its turn does nothing. -/
def step : HelloEvent → WsClient
  | .setDockCapabilities capabilities =>
    if client.announcing = .idle then client.setDockCapabilities capabilities else client
  | .check => if client.announcing = .recorded then client.checkAnnounce else client
  | .announce => if client.announcing = .due then client.announce else client
  | .send type texts => client.send type texts
  | .greet =>
    if client.session = .closed then
      { client with session := .greeting, lastSent := some client.capabilities }
    else client
  | .acknowledged =>
    if client.session = .greeting then
      { client with session := .serving, capabilitiesDirty := false, connected := true }
    else client
  | .failed =>
    if client.session = .greeting then
      { client with session := .closed, connected := false, lastSent := none }
    else client
  | .sendNext => if client.session = .serving then client.sendNext else client
  | .disconnect =>
    if client.session = .serving then { client with session := .ending, connected := false }
    else client
  | .purge =>
    if client.session = .ending then
      { client with
        session := .closed
        queue := client.queue.filter fun frame => !frame.isTransient
        lastSent := none }
    else client

end WsClient

/-- The client as a machine. -/
def wsClient : Machine WsClient HelloEvent Empty where
  step client event := (client.step event, [])

namespace WsClient

/-! ### The last hello of a connection -/

/-- The capabilities of the last hello queued, or else of the last one sent on the
    present connection. -/
def lastHello (client : WsClient) : Option (List String) :=
  ((client.queue.filterMap WireFrame.hello?).getLast?).or client.lastSent

/-- While the client is connected and has nothing to announce, the last hello tells what
    the robot can do. -/
def Announced (client : WsClient) : Prop :=
  client.connected = true → client.capabilitiesDirty = false →
    client.lastHello = some client.capabilities

/-- The steps that take the flag back: the answer to the hello must find that the last
    hello, sent or left in the queue, carries the present list, and an announcement must
    find a place in the queue. -/
def Current (client : WsClient) : HelloEvent → Prop
  | .acknowledged => client.session = .greeting → client.lastHello = some client.capabilities
  | .announce => client.announcing = .due → client.connected = true →
      client.queue.length < queueLimit ∨ client.queue.all WireFrame.isProtected = false ∨
        client.lastHello = some client.capabilities
  | _ => True

/-- Only a session that serves is connected. -/
def Bounded (client : WsClient) : Prop :=
  client.connected = true → client.session = .serving

section

variable {client : WsClient}

theorem isProtected_of_hello? {frame : WireFrame} {capabilities : List String}
    (h : frame.hello? = some capabilities) : frame.isProtected = true := by
  cases frame with
  | hello capabilities => rfl
  | other type texts => cases h

/-- Making room takes no hello from the queue. -/
theorem filterMap_eraseP (queue : List WireFrame) :
    (queue.eraseP fun frame => !frame.isProtected).filterMap WireFrame.hello? =
      queue.filterMap WireFrame.hello? := by
  induction queue with
  | nil => rfl
  | cons frame queue ih =>
    cases hprotected : frame.isProtected with
    | true =>
      rw [List.eraseP_cons_of_neg (by simp [hprotected]), List.filterMap_cons, List.filterMap_cons,
        ih]
    | false =>
      have hnone : frame.hello? = none := by
        cases hhello : frame.hello? with
        | none => rfl
        | some capabilities =>
          rw [isProtected_of_hello? hhello] at hprotected
          cases hprotected
      rw [List.eraseP_cons_of_pos (by simp [hprotected]), List.filterMap_cons, hnone]

/-- What a frame that found a place adds to the hellos of the queue. -/
theorem filterMap_enqueue {queue next : List WireFrame} {frame : WireFrame}
    (h : enqueue queue frame = some next) :
    next.filterMap WireFrame.hello? = queue.filterMap WireFrame.hello? ++ frame.hello?.toList := by
  unfold enqueue at h
  split at h
  · obtain rfl := Option.some.inj h
    cases frame <;> simp [WireFrame.hello?]
  · split at h
    · cases h
    · obtain rfl := Option.some.inj h
      rw [List.filterMap_append, filterMap_eraseP]
      cases frame <;> simp [WireFrame.hello?]

theorem enqueue_eq_none_iff {queue : List WireFrame} {frame : WireFrame} :
    enqueue queue frame = none ↔
      ¬queue.length < queueLimit ∧ queue.all WireFrame.isProtected = true := by
  unfold enqueue
  split
  · simp_all
  · split <;> simp_all

/-- Another frame leaves the last hello alone. -/
theorem lastHello_send (type : String) (texts : List String) :
    (client.send type texts).lastHello = client.lastHello := by
  unfold send
  split
  · rfl
  · cases hqueue : enqueue client.queue (.other type texts) with
    | none => rfl
    | some next =>
      have hhellos := filterMap_enqueue hqueue
      simp [lastHello, hhellos, WireFrame.hello?]

/-- Sending the next frame does not change which hello is the last. -/
theorem lastHello_sendNext : client.sendNext.lastHello = client.lastHello := by
  unfold sendNext lastHello
  cases hqueue : client.queue with
  | nil => rw [hqueue]
  | cons frame queue =>
    cases hhello : frame.hello? with
    | none => simp [hhello]
    | some capabilities =>
      rw [List.filterMap_cons, hhello]
      cases hrest : (queue.filterMap WireFrame.hello?) with
      | nil => simp [hhello]
      | cons first rest => simp [List.getLast?_cons]

/-- An announcement that finds a place is the last hello. -/
theorem lastHello_announce :
    client.announce.lastHello =
      if enqueue client.queue (.hello client.capabilities) = none then client.lastHello
      else some client.capabilities := by
  unfold announce lastHello
  cases hqueue : enqueue client.queue (.hello client.capabilities) with
  | none => simp
  | some next =>
    have hhellos := filterMap_enqueue hqueue
    simp [hhellos, WireFrame.hello?]

theorem announced_announce :
    client.announce.Announced ↔
      (client.connected = true → client.queue.length < queueLimit ∨
        client.queue.all WireFrame.isProtected = false ∨
        client.lastHello = some client.capabilities) := by
  have hlast := @lastHello_announce client
  have hcapabilities : client.announce.capabilities = client.capabilities := rfl
  have hfull := @enqueue_eq_none_iff client.queue (.hello client.capabilities)
  unfold Announced
  rw [hlast, hcapabilities]
  constructor
  · intro h hconnected
    have hannounced := h hconnected rfl
    split at hannounced
    · exact Or.inr (Or.inr hannounced)
    · rename_i hplace
      rw [hfull, not_and, Bool.not_eq_true] at hplace
      by_cases hroom : client.queue.length < queueLimit
      · exact Or.inl hroom
      · exact Or.inr (Or.inl (hplace hroom))
  · intro h hconnected _
    split
    · rename_i hrefused
      obtain ⟨hroom, hprotected⟩ := hfull.mp hrefused
      rcases h hconnected with hless | hother | hcurrent
      · exact absurd hless hroom
      · rw [hprotected] at hother
        cases hother
      · exact hcurrent
    · rfl

/-- From a state in which the law holds a step keeps it exactly if it is a current one. -/
theorem step_exact (hbounded : client.Bounded) (h : client.Announced) (event : HelloEvent) :
    (client.step event).Announced ↔ client.Current event := by
  cases event with
  | setDockCapabilities capabilities =>
    refine iff_of_true ?_ trivial
    simp only [step]
    split
    · unfold setDockCapabilities
      split
      · exact h
      · intro _ hdirty
        cases hdirty
    · exact h
  | check =>
    refine iff_of_true ?_ trivial
    simp only [step]
    split
    · unfold checkAnnounce
      split <;> exact h
    · exact h
  | announce =>
    simp only [step, Current]
    split
    · rename_i hdue
      rw [announced_announce]
      simp [hdue]
    · rename_i hidle
      exact iff_of_true h fun hdue => absurd hdue hidle
  | send type texts =>
    refine iff_of_true ?_ trivial
    have hsame : (client.send type texts).connected = client.connected ∧
        (client.send type texts).capabilitiesDirty = client.capabilitiesDirty ∧
        (client.send type texts).capabilities = client.capabilities := by
      unfold send
      split <;> exact ⟨rfl, rfl, rfl⟩
    simp only [step, Announced, lastHello_send, hsame]
    exact h
  | greet =>
    refine iff_of_true ?_ trivial
    simp only [step]
    split
    · rename_i hclosed
      intro hconnected
      rw [hbounded hconnected] at hclosed
      cases hclosed
    · exact h
  | acknowledged =>
    simp only [step, Current]
    split
    · rename_i hgreeting
      simp [Announced, hgreeting, lastHello, capabilities]
    · rename_i hother
      exact iff_of_true h fun hgreeting => absurd hgreeting hother
  | failed =>
    refine iff_of_true ?_ trivial
    simp only [step]
    split
    · intro hconnected
      cases hconnected
    · exact h
  | sendNext =>
    refine iff_of_true ?_ trivial
    have hsame : client.sendNext.connected = client.connected ∧
        client.sendNext.capabilitiesDirty = client.capabilitiesDirty ∧
        client.sendNext.capabilities = client.capabilities := by
      unfold sendNext
      split <;> exact ⟨rfl, rfl, rfl⟩
    simp only [step]
    split
    · simp only [Announced, lastHello_sendNext, hsame]
      exact h
    · exact h
  | disconnect =>
    refine iff_of_true ?_ trivial
    simp only [step]
    split
    · intro hconnected
      cases hconnected
    · exact h
  | purge =>
    refine iff_of_true ?_ trivial
    simp only [step]
    split
    · rename_i hending
      intro hconnected
      rw [hbounded hconnected] at hending
      cases hending
    · exact h

theorem bounded_step (h : client.Bounded) (event : HelloEvent) : (client.step event).Bounded := by
  have hlost {next : WsClient} (hconnected : next.connected = false) : next.Bounded := by
    intro hnext
    rw [hconnected] at hnext
    cases hnext
  cases event with
  | setDockCapabilities capabilities =>
    simp only [step, setDockCapabilities]
    split
    · split <;> exact h
    · exact h
  | check =>
    simp only [step, checkAnnounce]
    split
    · split <;> exact h
    · exact h
  | announce =>
    simp only [step, announce]
    split <;> exact h
  | send type texts =>
    simp only [step, send]
    split <;> exact h
  | greet =>
    simp only [step]
    split
    · rename_i hclosed
      intro hconnected
      rw [h hconnected] at hclosed
      cases hclosed
    · exact h
  | acknowledged =>
    simp only [step]
    split
    · intro _
      rfl
    · exact h
  | failed =>
    simp only [step]
    split
    · exact hlost rfl
    · exact h
  | sendNext =>
    simp only [step, sendNext]
    split
    · split <;> exact h
    · exact h
  | disconnect =>
    simp only [step]
    split
    · exact hlost rfl
    · exact h
  | purge =>
    simp only [step]
    split
    · rename_i hending
      intro hconnected
      rw [h hconnected] at hending
      cases hending
    · exact h

end

end WsClient

open WsClient

/-- In every run of calls, sessions and other frames the last hello tells the present
    capabilities in every connected state without a pending change exactly if every
    answer to a hello finds it so and every announcement finds a place. -/
theorem announced_run (events : List HelloEvent) :
    (∀ earlier later, events = earlier ++ later → (wsClient.run {} earlier).Announced) ↔
      wsClient.Along Current {} events :=
  wsClient.property_iff Bounded Announced (fun _ event hbounded h => step_exact hbounded h event)
    (fun _ event hbounded _ _ => bounded_step hbounded event)
    (fun hconnected => by cases hconnected) (fun hconnected => by cases hconnected)

/-- A change between the hello and its answer is never announced. -/
theorem not_announced :
    let client := wsClient.run {} [.greet, .setDockCapabilities ["undock"], .check, .acknowledged,
      .setDockCapabilities ["undock"], .check]
    client.connected = true ∧ client.capabilitiesDirty = false ∧ client.announcing = .idle ∧
      client.lastHello ≠ some client.capabilities := by
  decide +kernel

end PatrolBot.Bridge
