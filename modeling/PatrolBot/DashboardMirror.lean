import Mathlib.Data.List.Basic
import PatrolBot.BrowserQueue
import PatrolBot.Library.Machine
import PatrolBot.Library.Replica
import PatrolBot.ServerStatus

/-!
# Server and dashboards, side by side

`TelemetryHub` of `telemetry/hub.py` with the state of its robot on one side, and on the
other the telemetry stores of the browsers, `frontend/src/stores/telemetryStore.ts`: what is
written to a slice and published, what a browser that joins is sent, what its queue keeps,
and what the browser shows.  A frame's data are what their model reads in them.
-/

namespace PatrolBot.Mirror

open Server (ConnectionState)

/-! ### Slices and frames -/

/-- A slice that server and browsers both have. -/
inductive Slice where
  | pose
  | battery
  | baseState
  | resources
  | mapVersion
  | connection
  | status
  | health
  | capabilities
deriving DecidableEq

/-- The value of a slice; `Data` are the payloads. -/
inductive Value (Data : Type) where
  | absent
  | data (data : Data)
  -- `{**data, "estimate": estimate}`
  | battery (data : Data) (estimate : Option Data)
  | version (number : Int)
  | connection (state : ConnectionState)
  | capabilities (names : List String)
deriving DecidableEq

abbrev Slices (Data : Type) := Slice → Value Data

/-- The type of the frames that carry a slice. -/
def Slice.frameType : Slice → String
  | .pose => "telemetry.pose"
  | .battery => "telemetry.battery"
  | .baseState => "telemetry.base_state"
  | .resources => "telemetry.resources"
  | .mapVersion => "telemetry.map"
  | .connection => "state.connection"
  | .status => "state.robot_status"
  | .health => "state.system_health"
  | .capabilities => "state.capabilities"

inductive Frame (Data : Type) where
  | snapshot (slices : Slices Data)
  | update (slice : Slice) (value : Value Data)
  -- a frame of another type, which none of the slices is in
  | other (type : String)

/-- `PROTECTED_TYPES`. -/
def protectedTypes : List String :=
  ["server.snapshot", "state.connection", "state.robot_status", "state.system_health",
    "state.capabilities", "event.append", "telemetry.map", "command.ack", "command.progress",
    "command.result"]

namespace Frame

variable {Data : Type}

def type : Frame Data → String
  | .snapshot _ => "server.snapshot"
  | .update slice _ => slice.frameType
  | .other type => type

def isProtected (frame : Frame Data) : Bool := protectedTypes.contains frame.type

/-- What the frame makes of a slice of the browser. -/
def writes (slice : Slice) : Frame Data → Option (Value Data)
  | .snapshot slices => some (slices slice)
  | .update written value => if written = slice then some value else none
  | .other _ => none

end Frame

def Slice.isProtected (slice : Slice) : Bool := protectedTypes.contains slice.frameType

/-! ### A browser -/

/-- `BrowserClient`, with the store of the browser at its other end. -/
structure Client (Data : Type) where
  /-- The snapshot that was taken when it joined. -/
  snapshot : Slices Data
  /-- The snapshot has been put into the queue. -/
  greeted : Bool := false
  queue : List (Frame Data) := []
  overloaded : Bool := false
  dropped : Nat := 0
  shown : Slices Data

namespace Client

variable {Data : Type} (client : Client Data)

/-- `offer`. -/
def offer (frame : Frame Data) : Client Data :=
  if client.overloaded then client
  else match Shedding.offer Hub.queueLimit Frame.isProtected client.queue frame with
    | none => { client with overloaded := true }
    | some queue =>
      { client with
        queue := queue
        dropped := client.dropped + if client.queue.length < Hub.queueLimit then 0 else 1 }

def greet : Client Data := { client.offer (.snapshot client.snapshot) with greeted := true }

/-- `handleFrame`. -/
def handleFrame (shown : Slices Data) (frame : Frame Data) : Slices Data :=
  fun slice => (frame.writes slice).getD (shown slice)

/-- A round of `sender`, and the browser's handling of what it sends. -/
def deliver : Client Data :=
  if client.overloaded then client
  else match client.queue with
    | [] => client
    | frame :: queue => { client with queue := queue, shown := handleFrame client.shown frame }

/-- What the browser shows once it has handled what is queued. -/
def settled : Slices Data := client.queue.foldl handleFrame client.shown

/-- The client's side alone, as its frames are encoded. -/
def encoded (encode : Frame Data → String) : Hub.BrowserClient where
  queue := client.queue.map fun frame => (encode frame, frame.isProtected)
  overloaded := client.overloaded
  dropped := client.dropped

end Client

/-! ### The hub -/

structure TelemetryHub (Data : Type) where
  /-- The hub has a session of the robot. -/
  known : Bool := false
  state : Slices Data
  browsers : Nat → Option (Client Data) := fun _ => none

/-- `RobotState` of a robot that has not reported. -/
def unreported {Data : Type} : Slices Data
  | .mapVersion => .version 0
  | .connection => .connection .offline
  | .capabilities => .capabilities []
  | _ => .absent

/-- What the session of a robot does to its state. -/
inductive RobotEvent (Data : Type) where
  -- `set_capabilities([])`
  | resetCapabilities
  -- a hello, the first or a later one
  | hello (capabilities : List String)
  | pose (data : Data)
  -- with the estimate that the estimator makes of it
  | battery (data : Data) (estimate : Option Data)
  | baseState (data : Data)
  | resources (data : Data)
  | map (version : Int)
  | setConnection (state : ConnectionState)
  /-- `_emit_derived`; the health is its levels and messages. -/
  | emitDerived (status health : Data)

inductive Event (Data : Type) where
  -- `get_or_create_state`
  | create
  | robot (event : RobotEvent Data)
  /-- `publish` of a frame of another type. -/
  | publish (type : String)
  /-- `browser_connected` until it waits for the last pose.  `shown` is what the browser has
      from before, and the last two what a snapshot derives if nothing was derived yet. -/
  | join (browser : Nat) (shown : Slices Data) (status health : Data)
  /-- The rest of it. -/
  | greet (browser : Nat)
  | deliver (browser : Nat)
  | leave (browser : Nat)

/-- What there is to say of a step. -/
inductive Note where
  | wrote (slice : Slice) (published : Bool)
  | joined (browser : Nat)
  | greeted (browser : Nat)
deriving DecidableEq

namespace TelemetryHub

variable {Data : Type} [DecidableEq Data] (hub : TelemetryHub Data)

/-- `publish`. -/
def publish (frame : Frame Data) : TelemetryHub Data :=
  { hub with
    browsers := fun browser => (hub.browsers browser).map fun client => client.offer frame }

def write (slice : Slice) (value : Value Data) : TelemetryHub Data :=
  { hub with state := Function.update hub.state slice value }

/-- A slice that is written and published. -/
def tell (slice : Slice) (value : Value Data) : TelemetryHub Data × List Note :=
  ((hub.write slice value).publish (.update slice value), [.wrote slice true])

def modify (browser : Nat) (change : Client Data → Client Data) : TelemetryHub Data :=
  { hub with
    browsers := Function.update hub.browsers browser ((hub.browsers browser).map change) }

def greet (browser : Nat) : TelemetryHub Data × List Note :=
  if (hub.browsers browser).any fun client => !client.greeted then
    (hub.modify browser Client.greet, [.greeted browser])
  else (hub, [])

/-- `snapshot()`, which recomputes what was not derived yet. -/
def snapshot (status health : Data) : Slices Data :=
  if hub.state .health = .absent then
    Function.update (Function.update hub.state .status (.data status)) .health (.data health)
  else hub.state

/-- What a snapshot leaves behind; a robot that the hub does not know has only a passing
    state. -/
def afterSnapshot (status health : Data) : TelemetryHub Data × List Note :=
  if hub.known ∧ hub.state .health = .absent then
    ({ hub with state := hub.snapshot status health }, [.wrote .status false, .wrote .health false])
  else (hub, [])

/-- `browser_connected`; with a database it waits before the snapshot goes out. -/
def join (db : Bool) (browser : Nat) (shown : Slices Data) (status health : Data) :
    TelemetryHub Data × List Note :=
  if (hub.browsers browser).isSome then (hub, [])
  else
    let (after, derived) := hub.afterSnapshot status health
    let client : Client Data := { snapshot := hub.snapshot status health, shown := shown }
    let after := { after with browsers := Function.update after.browsers browser (some client) }
    if db then (after, derived ++ [.joined browser])
    else
      let (greeted, notes) := after.greet browser
      (greeted, derived ++ .joined browser :: notes)

/-- A slice that `recompute` has found changed. -/
def changed (slice : Slice) (value : Value Data) : TelemetryHub Data × List Note :=
  if hub.state slice = value then (hub, []) else hub.tell slice value

/-- `_emit_derived`. -/
def emitDerived (status health : Data) : TelemetryHub Data × List Note :=
  let (told, first) := hub.changed .status (.data status)
  let (told, second) := told.changed .health (.data health)
  (told, first ++ second)

def handle : RobotEvent Data → TelemetryHub Data × List Note
  | .resetCapabilities =>
    (hub.write .capabilities (.capabilities []), [.wrote .capabilities false])
  | .hello names => hub.tell .capabilities (.capabilities names)
  | .pose data => hub.tell .pose (.data data)
  | .battery data estimate => hub.tell .battery (.battery data estimate)
  | .baseState data => hub.tell .baseState (.data data)
  | .resources data => hub.tell .resources (.data data)
  | .map version => hub.tell .mapVersion (.version version)
  | .setConnection state => hub.tell .connection (.connection state)
  | .emitDerived status health => hub.emitDerived status health

def step (db : Bool) : Event Data → TelemetryHub Data × List Note
  | .create => ({ hub with known := true }, [])
  | .robot event => if hub.known then hub.handle event else (hub, [])
  | .publish type => (hub.publish (.other type), [])
  | .join browser shown status health => hub.join db browser shown status health
  | .greet browser => hub.greet browser
  | .deliver browser => (hub.modify browser Client.deliver, [])
  | .leave browser => ({ hub with browsers := Function.update hub.browsers browser none }, [])

end TelemetryHub

def hub (Data : Type) [DecidableEq Data] (db : Bool) :
    Machine (TelemetryHub Data) (Event Data) Note where
  step hub event := hub.step db event

section

variable {Data : Type} [DecidableEq Data]

def after (db : Bool) (events : List (Event Data)) : TelemetryHub Data :=
  (hub Data db).run { state := unreported } events

def notes (db : Bool) (events : List (Event Data)) : List Note :=
  ((hub Data db).trace { state := unreported } events).flatMap Prod.snd

/-! ### What a browser has been told -/

/-- What a browser heard of a slice. -/
structure Hearing where
  greeted : Bool := false
  /-- The slice is what it was when the browser joined, or a change that was published after
      the snapshot has made it what it is. -/
  current : Bool := true

def Hearing.next (browser : Nat) (slice : Slice) (hearing : Hearing) : Note → Hearing
  | .joined other => if other = browser then {} else hearing
  | .greeted other => if other = browser then { hearing with greeted := true } else hearing
  | .wrote written published =>
    if written = slice then { hearing with current := published && hearing.greeted } else hearing

def hearing (browser : Nat) (slice : Slice) (notes : List Note) : Hearing :=
  notes.foldl (Hearing.next browser slice) {}

/-- The hub has the slice, which it may not have derived yet. -/
def Settled (state : Slices Data) (slice : Slice) : Prop :=
  slice = .status ∨ slice = .health → state slice ≠ .absent

/-- The dashboards show what the server has. -/
structure Mirrored (db : Bool) (events : List (Event Data)) : Prop where
  /-- A browser that keeps up shows, once it has handled what is queued, each slice as the
      server has it, if it was told of the last change after its snapshot.  Only a slice that
      is not protected may get lost on the way. -/
  shown : ∀ browser client slice, (after db events).browsers browser = some client →
    client.greeted = true → client.overloaded = false →
      slice.isProtected = true ∨ client.dropped = 0 →
        Settled (after db events).state slice →
          (hearing browser slice (notes db events)).current = true →
            client.settled slice = (after db events).state slice
  /-- All changes are told but that of the capabilities before a hello and what is derived
      for a snapshot. -/
  told : ∀ slice, .wrote slice false ∈ notes db events →
    slice = .status ∨ slice = .health ∨ slice = .capabilities
  /-- Without a database a browser is told of every other change. -/
  prompt : db = false → ∀ browser client slice,
    (after db events).browsers browser = some client →
      slice ≠ .status → slice ≠ .health → slice ≠ .capabilities →
        (hearing browser slice (notes db events)).current = true

end

/-! ## A client -/

section

variable {Data : Type} {client : Client Data} {frame : Frame Data} {slice : Slice}

theorem foldl_handleFrame (queue : List (Frame Data)) (shown : Slices Data) (slice : Slice) :
    queue.foldl Client.handleFrame shown slice =
      Replica.read (Frame.writes slice) queue (shown slice) := by
  induction queue generalizing shown with
  | nil => rfl
  | cons frame queue ih => exact ih (Client.handleFrame shown frame)

theorem settled_eq (client : Client Data) (slice : Slice) :
    client.settled slice =
      Replica.read (Frame.writes slice) client.queue (client.shown slice) :=
  foldl_handleFrame client.queue client.shown slice

/-- A frame that may be shed carries no protected slice. -/
theorem writes_eq_none (hslice : slice.isProtected = true) {frame : Frame Data}
    (hframe : frame.isProtected = false) : frame.writes slice = none := by
  cases frame with
  | snapshot slices => simp [Frame.isProtected, Frame.type, protectedTypes] at hframe
  | update written value =>
    refine if_neg fun heq => ?_
    rw [heq] at hframe
    exact absurd (hslice.symm.trans hframe) (by decide)
  | other type => rfl

/-- What an offer does to a client that keeps up. -/
theorem offer_cases (hlive : client.overloaded = false) (frame : Frame Data) :
    client.offer frame = { client with overloaded := true } ∨
      ∃ queue, Shedding.offer Hub.queueLimit Frame.isProtected client.queue frame = some queue ∧
        client.offer frame = { client with
          queue := queue
          dropped := client.dropped + if client.queue.length < Hub.queueLimit then 0 else 1 } := by
  unfold Client.offer
  rw [hlive, if_neg Bool.false_ne_true]
  cases hoffer : Shedding.offer Hub.queueLimit Frame.isProtected client.queue frame with
  | none => exact Or.inl rfl
  | some queue => exact Or.inr ⟨queue, rfl, rfl⟩

/-- An offer leaves all but the queue and its counters. -/
theorem offer_kept (client : Client Data) (frame : Frame Data) :
    (client.offer frame).snapshot = client.snapshot ∧
      (client.offer frame).greeted = client.greeted ∧
      (client.offer frame).shown = client.shown ∧
      ((client.offer frame).overloaded = false → client.overloaded = false) ∧
      client.dropped ≤ (client.offer frame).dropped := by
  cases hover : client.overloaded with
  | true =>
    have hsame : client.offer frame = client := if_pos hover
    rw [hsame]
    exact ⟨rfl, rfl, rfl, fun h => hover.symm.trans h, Nat.le_refl _⟩
  | false =>
    rcases offer_cases hover frame with hoffer | ⟨queue, -, hoffer⟩
    · rw [hoffer]
      exact ⟨rfl, rfl, rfl, nofun, Nat.le_refl _⟩
    · rw [hoffer]
      exact ⟨rfl, rfl, rfl, fun _ => rfl, Nat.le_add_right _ _⟩

/-- A frame that is queued is the last that the browser is going to handle. -/
theorem settled_offer (hlive : (client.offer frame).overloaded = false)
    (hslice : slice.isProtected = true ∨ (client.offer frame).dropped = 0) :
    (client.offer frame).settled slice = (frame.writes slice).getD (client.settled slice) := by
  have hbefore := (offer_kept client frame).2.2.2.1 hlive
  rcases offer_cases hbefore frame with hoffer | ⟨queue, hqueue, hoffer⟩
  · rw [hoffer] at hlive
    cases hlive
  · rw [settled_eq, settled_eq, ← Replica.read_concat, hoffer]
    rw [hoffer] at hslice
    dsimp only at hslice ⊢
    rcases hslice with hprotected | hdropped
    · have hkept := Shedding.filter_offer hqueue
      rw [← @Replica.read_filter _ _ (Frame.writes slice) _ _ _
          (fun frame hframe => writes_eq_none hprotected hframe), hkept,
        Replica.read_filter fun frame hframe => writes_eq_none hprotected hframe]
    · have hroom : client.queue.length < Hub.queueLimit := by
        by_contra hfull
        rw [if_neg hfull] at hdropped
        omega
      rw [Shedding.offer, if_pos hroom] at hqueue
      rw [Option.some.inj hqueue]

theorem deliver_kept (client : Client Data) :
    client.deliver.snapshot = client.snapshot ∧ client.deliver.greeted = client.greeted ∧
      client.deliver.overloaded = client.overloaded ∧ client.deliver.dropped = client.dropped ∧
      client.deliver.settled = client.settled := by
  unfold Client.deliver
  split
  · exact ⟨rfl, rfl, rfl, rfl, rfl⟩
  · cases hqueue : client.queue with
    | nil => exact ⟨rfl, rfl, rfl, rfl, rfl⟩
    | cons frame queue =>
      refine ⟨rfl, rfl, rfl, rfl, ?_⟩
      rw [Client.settled, Client.settled, hqueue]
      rfl

/-- The queue is the one of `BrowserClient`. -/
theorem encoded_offer (encode : Frame Data → String) (client : Client Data) (frame : Frame Data) :
    (client.offer frame).encoded encode =
      (client.encoded encode).offer (encode frame, frame.isProtected) := by
  have hover : (client.encoded encode).overloaded = client.overloaded := rfl
  have hlength : (client.encoded encode).queue.length = client.queue.length := by
    simp [Client.encoded]
  have hall : (client.encoded encode).queue.all Prod.snd =
      client.queue.all Frame.isProtected := by
    simp [Client.encoded, List.all_map, Function.comp_def]
  unfold Client.offer Hub.BrowserClient.offer
  rw [hover, hlength, Hub.BrowserClient.evictUnprotected, hall, Shedding.offer]
  cases hlive : client.overloaded with
  | true => rfl
  | false =>
    simp only [Bool.false_eq_true, if_false]
    by_cases hroom : client.queue.length < Hub.queueLimit
    · simp [hroom, hlive, Client.encoded, Hub.BrowserClient.append]
    · by_cases hspared : client.queue.all Frame.isProtected = true
      · simp only [if_neg hroom, if_pos hspared]
        rfl
      · simp only [if_neg hroom, if_neg hspared]
        simp [hlive, Client.encoded, Hub.BrowserClient.append, List.eraseP_map,
          Function.comp_def]

end

/-! ## A slice and a client -/

theorem hearing_concat (browser : Nat) (slice : Slice) (notes : List Note) (note : Note) :
    hearing browser slice (notes ++ [note]) =
      (hearing browser slice notes).next browser slice note :=
  List.foldl_concat ..

/-- What a client has, as far as it was told, is what the server has. -/
structure Told {Data : Type} (state : Slices Data) (client : Client Data)
    (heard : Slice → Hearing) : Prop where
  greeted : ∀ slice, (heard slice).greeted = client.greeted
  waiting : client.greeted = false → ∀ slice, Settled state slice →
    (heard slice).current = true → client.snapshot slice = state slice
  shown : client.greeted = true → client.overloaded = false → ∀ slice,
    slice.isProtected = true ∨ client.dropped = 0 → Settled state slice →
      (heard slice).current = true → client.settled slice = state slice

section

variable {Data : Type} {state : Slices Data} {client : Client Data} {heard : Slice → Hearing}

/-- A frame that carries no slice. -/
theorem Told.other (h : Told state client heard) (type : String) :
    Told state (client.offer (.other type)) heard := by
  obtain ⟨hsnapshot, hgreeted, -, hlive, hdropped⟩ := offer_kept client (.other type)
  constructor
  · intro slice
    rw [hgreeted]
    exact h.greeted slice
  · intro hwaits slice hsettled hcurrent
    rw [hsnapshot]
    exact h.waiting (hgreeted.symm.trans hwaits) slice hsettled hcurrent
  · intro hgreet hkeeps slice hslice hsettled hcurrent
    rw [settled_offer hkeeps hslice]
    refine h.shown (hgreeted.symm.trans hgreet) (hlive hkeeps) slice ?_ hsettled hcurrent
    rcases hslice with hprotected | hnone
    · exact Or.inl hprotected
    · exact Or.inr (by omega)

theorem Told.deliver (h : Told state client heard) : Told state client.deliver heard := by
  obtain ⟨hsnapshot, hgreeted, hover, hdropped, hsettled⟩ := deliver_kept client
  constructor
  · rw [hgreeted]
    exact h.greeted
  · rw [hgreeted, hsnapshot]
    exact h.waiting
  · rw [hgreeted, hover, hdropped, hsettled]
    exact h.shown

/-- The snapshot that goes out last tells every slice as it was when it was taken. -/
theorem Told.greet (h : Told state client heard) (hwaits : client.greeted = false) :
    Told state client.greet fun slice => { heard slice with greeted := true } := by
  refine ⟨fun slice => rfl, nofun, fun _ hkeeps slice hslice hsettled hcurrent => ?_⟩
  have hshown : client.greet.settled slice = client.snapshot slice :=
    @settled_offer _ _ (.snapshot client.snapshot) _ hkeeps hslice
  rw [hshown]
  exact h.waiting hwaits slice hsettled hcurrent

/-- A write of a slice leaves the others as they are. -/
theorem Settled.of_ne {slice written : Slice} {value : Value Data} (hne : slice ≠ written)
    (h : Settled (Function.update state written value) slice) : Settled state slice := by
  rw [Settled, Function.update_of_ne hne] at h
  exact h

/-- A slice that is written and published. -/
theorem Told.tell (h : Told state client heard) (browser : Nat) (written : Slice)
    (value : Value Data) :
    Told (Function.update state written value) (client.offer (.update written value))
      fun slice => (heard slice).next browser slice (.wrote written true) := by
  obtain ⟨hsnapshot, hgreeted, -, hlive, hdropped⟩ := offer_kept client (.update written value)
  constructor
  · intro slice
    rw [hgreeted, ← h.greeted slice, Hearing.next]
    split <;> rfl
  · intro hwaits slice hsettled hcurrent
    rw [hgreeted] at hwaits
    by_cases hslice : written = slice
    · rw [Hearing.next, if_pos hslice] at hcurrent
      exact absurd ((h.greeted slice).symm.trans hcurrent) (by simp [hwaits])
    · rw [Hearing.next, if_neg hslice] at hcurrent
      rw [hsnapshot, Function.update_of_ne (Ne.symm hslice)]
      exact h.waiting hwaits slice (hsettled.of_ne (Ne.symm hslice)) hcurrent
  · intro hgreet hkeeps slice hspared hsettled hcurrent
    rw [settled_offer hkeeps hspared]
    by_cases hslice : written = slice
    · rw [Frame.writes, if_pos hslice, Option.getD_some, ← hslice, Function.update_self]
    · rw [Hearing.next, if_neg hslice] at hcurrent
      rw [Frame.writes, if_neg hslice, Option.getD_none, Function.update_of_ne (Ne.symm hslice)]
      refine h.shown (hgreeted.symm.trans hgreet) (hlive hkeeps) slice ?_
        (hsettled.of_ne (Ne.symm hslice)) hcurrent
      rcases hspared with hprotected | hnone
      · exact Or.inl hprotected
      · exact Or.inr (by omega)

/-- A slice that is written without a word. -/
theorem Told.write (h : Told state client heard) (browser : Nat) (written : Slice)
    (value : Value Data) :
    Told (Function.update state written value) client
      fun slice => (heard slice).next browser slice (.wrote written false) := by
  constructor
  · intro slice
    rw [← h.greeted slice, Hearing.next]
    split <;> rfl
  · intro hwaits slice hsettled hcurrent
    by_cases hslice : written = slice
    · rw [Hearing.next, if_pos hslice] at hcurrent
      cases hcurrent
    · rw [Hearing.next, if_neg hslice] at hcurrent
      rw [Function.update_of_ne (Ne.symm hslice)]
      exact h.waiting hwaits slice (hsettled.of_ne (Ne.symm hslice)) hcurrent
  · intro hgreet hkeeps slice hspared hsettled hcurrent
    by_cases hslice : written = slice
    · rw [Hearing.next, if_pos hslice] at hcurrent
      cases hcurrent
    · rw [Hearing.next, if_neg hslice] at hcurrent
      rw [Function.update_of_ne (Ne.symm hslice)]
      exact h.shown hgreet hkeeps slice hspared (hsettled.of_ne (Ne.symm hslice)) hcurrent

end

/-! ## The hub -/

/-- Hub and notes, as far as the browsers go. -/
structure Mirrors {Data : Type} (hub : TelemetryHub Data) (notes : List Note) : Prop where
  unknown : hub.known = false → hub.state = unreported
  told : ∀ browser client, hub.browsers browser = some client →
    Told hub.state client fun slice => hearing browser slice notes

section

variable {Data : Type} {hub : TelemetryHub Data} {notes : List Note}

theorem Mirrors.tell (h : Mirrors hub notes) (hknown : hub.known = true) (slice : Slice)
    (value : Value Data) :
    Mirrors (hub.tell slice value).1 (notes ++ (hub.tell slice value).2) := by
  constructor
  · intro hunknown
    exact absurd (hknown.symm.trans hunknown) (by decide)
  · intro browser client hclient
    obtain ⟨before, hbefore, rfl⟩ := Option.map_eq_some_iff.mp hclient
    have htold := (h.told browser before hbefore).tell browser slice value
    simp only [← hearing_concat] at htold
    exact htold

theorem Mirrors.write (h : Mirrors hub notes) (hknown : hub.known = true) (slice : Slice)
    (value : Value Data) : Mirrors (hub.write slice value) (notes ++ [.wrote slice false]) := by
  constructor
  · intro hunknown
    exact absurd (hknown.symm.trans hunknown) (by decide)
  · intro browser client hclient
    have htold := (h.told browser client hclient).write browser slice value
    simp only [← hearing_concat] at htold
    exact htold

/-- A change of one client, about which the notes say what they should. -/
theorem Mirrors.modify (h : Mirrors hub notes) (browser : Nat) {change : Client Data → Client Data}
    {more : List Note}
    (hothers : ∀ other slice, other ≠ browser →
      hearing other slice (notes ++ more) = hearing other slice notes)
    (hchange : ∀ client, hub.browsers browser = some client →
      Told hub.state (change client) fun slice => hearing browser slice (notes ++ more)) :
    Mirrors (hub.modify browser change) (notes ++ more) := by
  refine ⟨h.unknown, fun other client hclient => ?_⟩
  by_cases hother : other = browser
  · rw [hother] at hclient ⊢
    simp only [TelemetryHub.modify, Function.update_self] at hclient
    obtain ⟨before, hbefore, rfl⟩ := Option.map_eq_some_iff.mp hclient
    exact hchange before hbefore
  · simp only [TelemetryHub.modify, Function.update_of_ne hother] at hclient
    simp only [hothers other _ hother]
    exact h.told other client hclient

theorem Mirrors.greet (h : Mirrors hub notes) (browser : Nat) :
    Mirrors (hub.greet browser).1 (notes ++ (hub.greet browser).2) := by
  unfold TelemetryHub.greet
  split
  · rename_i hwaits
    refine h.modify browser ?_ ?_
    · intro other slice hother
      rw [hearing_concat]
      exact if_neg (Ne.symm hother)
    · intro client hclient
      rw [hclient, Option.any_some, Bool.not_eq_true'] at hwaits
      have htold := (h.told browser client hclient).greet hwaits
      have hheard : ∀ slice, { hearing browser slice notes with greeted := true } =
          hearing browser slice (notes ++ [.greeted browser]) := by
        intro slice
        rw [hearing_concat]
        exact (if_pos rfl).symm
      simp only [hheard] at htold
      exact htold
  · rw [List.append_nil]
    exact h

/-- The browser that joins, which has heard nothing yet. -/
theorem Mirrors.joined (h : Mirrors hub notes) {browser : Nat} {client : Client Data}
    (hclient : Told hub.state client fun _ => {}) :
    Mirrors { hub with browsers := Function.update hub.browsers browser (some client) }
      (notes ++ [.joined browser]) := by
  refine ⟨h.unknown, fun other found hfound => ?_⟩
  dsimp only at hfound
  by_cases hother : other = browser
  · rw [hother] at hfound ⊢
    rw [Function.update_self] at hfound
    obtain rfl := Option.some.inj hfound
    have hnew : ∀ slice, hearing browser slice (notes ++ [.joined browser]) = {} := by
      intro slice
      rw [hearing_concat]
      exact if_pos rfl
    simp only [hnew]
    exact hclient
  · rw [Function.update_of_ne hother] at hfound
    have hsame : ∀ slice, hearing other slice (notes ++ [.joined browser]) =
        hearing other slice notes := by
      intro slice
      rw [hearing_concat]
      exact if_neg (Ne.symm hother)
    simp only [hsame]
    exact h.told other found hfound

variable [DecidableEq Data]

theorem Mirrors.changed (h : Mirrors hub notes) (hknown : hub.known = true) (slice : Slice)
    (value : Value Data) :
    (hub.changed slice value).1.known = true ∧
      Mirrors (hub.changed slice value).1 (notes ++ (hub.changed slice value).2) := by
  unfold TelemetryHub.changed
  split
  · rw [List.append_nil]
    exact ⟨hknown, h⟩
  · exact ⟨hknown, h.tell hknown slice value⟩

theorem Mirrors.emitDerived (h : Mirrors hub notes) (hknown : hub.known = true)
    (status health : Data) :
    Mirrors (hub.emitDerived status health).1 (notes ++ (hub.emitDerived status health).2) := by
  obtain ⟨hstill, hfirst⟩ := h.changed hknown .status (.data status)
  have hsecond := (hfirst.changed hstill .health (.data health)).2
  rw [List.append_assoc] at hsecond
  exact hsecond

theorem Mirrors.handle (h : Mirrors hub notes) (hknown : hub.known = true)
    (event : RobotEvent Data) :
    Mirrors (hub.handle event).1 (notes ++ (hub.handle event).2) := by
  cases event with
  | resetCapabilities => exact h.write hknown .capabilities _
  | hello names => exact h.tell hknown .capabilities _
  | pose data => exact h.tell hknown .pose _
  | battery data estimate => exact h.tell hknown .battery _
  | baseState data => exact h.tell hknown .baseState _
  | resources data => exact h.tell hknown .resources _
  | map version => exact h.tell hknown .mapVersion _
  | setConnection state => exact h.tell hknown .connection _
  | emitDerived status health => exact h.emitDerived hknown status health

/-- The snapshot says what the hub has, or is about to have. -/
theorem snapshot_eq (h : Mirrors hub notes) {status health : Data} {slice : Slice}
    (hsettled : Settled (hub.afterSnapshot status health).1.state slice) :
    hub.snapshot status health slice = (hub.afterSnapshot status health).1.state slice := by
  unfold TelemetryHub.afterSnapshot at hsettled ⊢
  split
  · rfl
  · rename_i hkept
    rw [if_neg hkept] at hsettled
    unfold TelemetryHub.snapshot
    split
    · rename_i habsent
      have hunknown : hub.known = false := by
        cases hknown : hub.known with
        | false => rfl
        | true => exact absurd ⟨hknown, habsent⟩ hkept
      have hstate := h.unknown hunknown
      by_cases hslice : slice = .status ∨ slice = .health
      · refine absurd ?_ (hsettled hslice)
        rw [hstate]
        rcases hslice with rfl | rfl <;> rfl
      · rw [not_or] at hslice
        rw [Function.update_of_ne hslice.2, Function.update_of_ne hslice.1]
    · rfl

theorem Mirrors.afterSnapshot (h : Mirrors hub notes) (status health : Data) :
    Mirrors (hub.afterSnapshot status health).1
      (notes ++ (hub.afterSnapshot status health).2) := by
  unfold TelemetryHub.afterSnapshot
  split
  · rename_i hnew
    have hwritten := (h.write hnew.1 .status (.data status)).write hnew.1 .health (.data health)
    rw [List.append_assoc] at hwritten
    rw [TelemetryHub.snapshot, if_pos hnew.2]
    exact hwritten
  · rw [List.append_nil]
    exact h

theorem Mirrors.join (h : Mirrors hub notes) (db : Bool) (browser : Nat) (shown : Slices Data)
    (status health : Data) :
    Mirrors (hub.join db browser shown status health).1
      (notes ++ (hub.join db browser shown status health).2) := by
  unfold TelemetryHub.join
  split
  · rw [List.append_nil]
    exact h
  · have hafter := h.afterSnapshot status health
    have hjoined := @Mirrors.joined _ _ _ hafter browser
      { snapshot := hub.snapshot status health, shown := shown }
      ⟨fun _ => rfl, fun _ _ hsettled _ => snapshot_eq h hsettled, nofun⟩
    dsimp only
    rw [List.append_assoc] at hjoined
    split
    · exact hjoined
    · have hgreeted := hjoined.greet browser
      rw [List.append_assoc, List.append_assoc] at hgreeted
      exact hgreeted

theorem Mirrors.step (h : Mirrors hub notes) (db : Bool) (event : Event Data) :
    Mirrors (hub.step db event).1 (notes ++ (hub.step db event).2) := by
  cases event with
  | create =>
    rw [TelemetryHub.step, List.append_nil]
    exact ⟨nofun, h.told⟩
  | robot event =>
    rw [TelemetryHub.step]
    split
    · rename_i hknown
      exact h.handle hknown event
    · rw [List.append_nil]
      exact h
  | publish type =>
    rw [TelemetryHub.step, List.append_nil]
    refine ⟨h.unknown, fun browser client hclient => ?_⟩
    obtain ⟨before, hbefore, rfl⟩ := Option.map_eq_some_iff.mp hclient
    exact (h.told browser before hbefore).other type
  | join browser shown status health => exact h.join db browser shown status health
  | greet browser => exact h.greet browser
  | deliver browser =>
    refine @Mirrors.modify _ _ _ h browser _ [] ?_ ?_
    · intro other slice _
      rw [List.append_nil]
    · intro client hclient
      rw [List.append_nil]
      exact (h.told browser client hclient).deliver
  | leave browser =>
    rw [TelemetryHub.step, List.append_nil]
    refine ⟨h.unknown, fun other client hclient => ?_⟩
    by_cases hother : other = browser
    · simp [hother] at hclient
    · simp only [Function.update_of_ne hother] at hclient
      exact h.told other client hclient

end

/-! ## What is told -/

/-- A slice that may change without a frame. -/
def Slice.Silent (slice : Slice) : Prop :=
  slice = .status ∨ slice = .health ∨ slice = .capabilities

/-- What a step may note. -/
inductive Noted {Data : Type} (hub : TelemetryHub Data) : Note → Prop where
  | told (slice : Slice) : Noted hub (.wrote slice true)
  | silent {slice : Slice} (h : slice.Silent) : Noted hub (.wrote slice false)
  | joined {browser : Nat} (h : hub.browsers browser = none) : Noted hub (.joined browser)
  | greeted (browser : Nat) : Noted hub (.greeted browser)

section

variable {Data : Type} {hub : TelemetryHub Data} {note : Note}

theorem eq_of_mem_greet {browser : Nat} (h : note ∈ (hub.greet browser).2) :
    note = .greeted browser := by
  unfold TelemetryHub.greet at h
  split at h
  · exact List.mem_singleton.mp h
  · cases h

theorem isSome_publish (frame : Frame Data) (browser : Nat) :
    ((hub.publish frame).browsers browser).isSome = (hub.browsers browser).isSome :=
  Option.isSome_map

theorem isSome_modify (changed : Nat) (change : Client Data → Client Data) (browser : Nat) :
    ((hub.modify changed change).browsers browser).isSome = (hub.browsers browser).isSome := by
  by_cases hsame : browser = changed
  · rw [hsame]
    simp [TelemetryHub.modify]
  · simp [TelemetryHub.modify, Function.update_of_ne hsame]

theorem isSome_greet (greeted browser : Nat) :
    ((hub.greet greeted).1.browsers browser).isSome = (hub.browsers browser).isSome := by
  unfold TelemetryHub.greet
  split
  · exact isSome_modify greeted Client.greet browser
  · rfl

variable [DecidableEq Data]

theorem isSome_changed (slice : Slice) (value : Value Data) (browser : Nat) :
    ((hub.changed slice value).1.browsers browser).isSome = (hub.browsers browser).isSome := by
  unfold TelemetryHub.changed
  split
  · rfl
  · exact isSome_publish _ browser

theorem isSome_handle (event : RobotEvent Data) (browser : Nat) :
    ((hub.handle event).1.browsers browser).isSome = (hub.browsers browser).isSome := by
  cases event with
  | resetCapabilities => rfl
  | emitDerived status health =>
    exact (isSome_changed .health _ browser).trans (isSome_changed .status _ browser)
  | hello names => exact isSome_publish _ browser
  | pose data => exact isSome_publish _ browser
  | battery data estimate => exact isSome_publish _ browser
  | baseState data => exact isSome_publish _ browser
  | resources data => exact isSome_publish _ browser
  | map version => exact isSome_publish _ browser
  | setConnection state => exact isSome_publish _ browser

theorem isSome_join (db : Bool) {joining browser : Nat} (hne : browser ≠ joining)
    (shown : Slices Data) (status health : Data) :
    ((hub.join db joining shown status health).1.browsers browser).isSome =
      (hub.browsers browser).isSome := by
  have hafter : (hub.afterSnapshot status health).1.browsers = hub.browsers := by
    unfold TelemetryHub.afterSnapshot
    split <;> rfl
  unfold TelemetryHub.join
  split
  · rfl
  · dsimp only
    split
    · dsimp only
      rw [Function.update_of_ne hne, hafter]
    · rw [isSome_greet]
      dsimp only
      rw [Function.update_of_ne hne, hafter]

theorem eq_of_mem_changed {slice : Slice} {value : Value Data}
    (h : note ∈ (hub.changed slice value).2) : note = .wrote slice true := by
  unfold TelemetryHub.changed at h
  split at h
  · cases h
  · exact List.mem_singleton.mp h

theorem noted_handle {event : RobotEvent Data} (h : note ∈ (hub.handle event).2) :
    Noted hub note := by
  cases event with
  | resetCapabilities =>
    rw [List.mem_singleton.mp h]
    exact .silent (Or.inr (Or.inr rfl))
  | emitDerived status health =>
    rcases List.mem_append.mp h with h | h
    · rw [eq_of_mem_changed h]
      exact .told _
    · rw [eq_of_mem_changed h]
      exact .told _
  | hello names => rw [List.mem_singleton.mp h]; exact .told _
  | pose data => rw [List.mem_singleton.mp h]; exact .told _
  | battery data estimate => rw [List.mem_singleton.mp h]; exact .told _
  | baseState data => rw [List.mem_singleton.mp h]; exact .told _
  | resources data => rw [List.mem_singleton.mp h]; exact .told _
  | map version => rw [List.mem_singleton.mp h]; exact .told _
  | setConnection state => rw [List.mem_singleton.mp h]; exact .told _

theorem noted_join {db : Bool} {browser : Nat} {shown : Slices Data} {status health : Data}
    (h : note ∈ (hub.join db browser shown status health).2) : Noted hub note := by
  unfold TelemetryHub.join at h
  split at h
  · cases h
  · rename_i hnew
    have hjoined : Noted hub (.joined browser) := .joined (by simpa using hnew)
    have hderived : ∀ note ∈ (hub.afterSnapshot status health).2, Noted hub note := by
      intro note hnote
      unfold TelemetryHub.afterSnapshot at hnote
      split at hnote
      · simp only [List.mem_cons, List.not_mem_nil, or_false] at hnote
        rcases hnote with rfl | rfl
        · exact .silent (Or.inl rfl)
        · exact .silent (Or.inr (Or.inl rfl))
      · cases hnote
    dsimp only at h
    split at h
    · rcases List.mem_append.mp h with h | h
      · exact hderived note h
      · rw [List.mem_singleton.mp h]
        exact hjoined
    · rcases List.mem_append.mp h with h | h
      · exact hderived note h
      · rcases List.mem_cons.mp h with rfl | h
        · exact hjoined
        · rw [eq_of_mem_greet h]
          exact .greeted browser

theorem noted_step {db : Bool} {event : Event Data} (h : note ∈ (hub.step db event).2) :
    Noted hub note := by
  cases event with
  | robot event =>
    rw [TelemetryHub.step] at h
    split at h
    · exact noted_handle h
    · cases h
  | join browser shown status health => exact noted_join h
  | greet browser =>
    rw [eq_of_mem_greet h]
    exact .greeted browser
  | create => cases h
  | publish type => cases h
  | deliver browser => cases h
  | leave browser => cases h

/-- A browser that was told of all changes has still been, unless it joins again or a slice
    changes without a frame. -/
theorem hearing_attentive {browser : Nat} {slice : Slice} {notes more : List Note}
    (h : hearing browser slice notes = ⟨true, true⟩)
    (hmore : ∀ note ∈ more, note ≠ .joined browser ∧ note ≠ .wrote slice false) :
    hearing browser slice (notes ++ more) = ⟨true, true⟩ := by
  induction more generalizing notes with
  | nil => rw [List.append_nil]; exact h
  | cons note more ih =>
    rw [List.append_cons]
    refine ih ?_ fun other hother => hmore other (List.mem_cons_of_mem note hother)
    rw [hearing_concat, h]
    obtain ⟨hjoined, hwrote⟩ := hmore note List.mem_cons_self
    cases note with
    | joined other =>
      exact if_neg fun heq => hjoined (by rw [heq])
    | greeted other => exact ite_self _
    | wrote written published =>
      by_cases hslice : written = slice
      · cases published with
        | true => exact if_pos hslice
        | false => exact absurd (by rw [hslice]) hwrote
      · exact if_neg hslice

/-- Without a database a browser is greeted as soon as it joins. -/
theorem notes_join {browser : Nat} (h : hub.browsers browser = none) (shown : Slices Data)
    (status health : Data) :
    (hub.join false browser shown status health).2 =
      (hub.afterSnapshot status health).2 ++ [.joined browser, .greeted browser] := by
  unfold TelemetryHub.join
  rw [if_neg (by simp [h])]
  dsimp only
  rw [if_neg Bool.false_ne_true, TelemetryHub.greet, if_pos (by simp)]

/-- Nobody is in the hub but those who were, and the one that joins. -/
theorem browsers_step {db : Bool} {event : Event Data} {browser : Nat}
    (h : ((hub.step db event).1.browsers browser).isSome = true) :
    (hub.browsers browser).isSome = true ∨
      ∃ shown status health, event = .join browser shown status health := by
  cases event with
  | create => exact Or.inl h
  | robot event =>
    left
    rw [TelemetryHub.step] at h
    split at h
    · rwa [isSome_handle] at h
    · exact h
  | publish type => exact Or.inl (by rwa [TelemetryHub.step, isSome_publish] at h)
  | join joining shown status health =>
    by_cases hsame : browser = joining
    · rw [hsame]
      exact Or.inr ⟨shown, status, health, rfl⟩
    · exact Or.inl (by rwa [TelemetryHub.step, isSome_join db hsame] at h)
  | greet greeted => exact Or.inl (by rwa [TelemetryHub.step, isSome_greet] at h)
  | deliver reached => exact Or.inl (by rwa [TelemetryHub.step, isSome_modify] at h)
  | leave leaving =>
    left
    by_cases hsame : browser = leaving
    · simp [TelemetryHub.step, hsame] at h
    · simpa [TelemetryHub.step, Function.update_of_ne hsame] using h

/-- Without a database, every browser has been told of all that is told. -/
def Attentive (hub : TelemetryHub Data) (notes : List Note) : Prop :=
  ∀ browser slice, (hub.browsers browser).isSome = true → ¬ slice.Silent →
    hearing browser slice notes = ⟨true, true⟩

theorem Attentive.step {notes : List Note} (h : Attentive hub notes) (event : Event Data) :
    Attentive (hub.step false event).1 (notes ++ (hub.step false event).2) := by
  intro browser slice hbrowser hslice
  cases hbefore : hub.browsers browser with
  | some client =>
    refine hearing_attentive (h browser slice (by rw [hbefore]; rfl) hslice) ?_
    intro note hnote
    cases noted_step hnote with
    | told written => simp
    | silent hsilent =>
      refine ⟨nofun, fun heq => hslice ?_⟩
      cases heq
      exact hsilent
    | joined hnew =>
      refine ⟨fun heq => ?_, nofun⟩
      cases heq
      rw [hbefore] at hnew
      cases hnew
    | greeted greeted => exact ⟨nofun, nofun⟩
  | none =>
    rcases browsers_step hbrowser with hold | ⟨shown, status, health, rfl⟩
    · rw [hbefore] at hold
      cases hold
    · rw [TelemetryHub.step, notes_join hbefore, ← List.append_assoc, List.append_cons,
        hearing_concat, hearing_concat]
      simp [Hearing.next]

end

section

variable {Data : Type} [DecidableEq Data]

theorem mirrors_run (db : Bool) (events : List (Event Data)) :
    Mirrors (after db events) (notes db events) := by
  refine @Machine.history_invariant _ _ _ (hub Data db) (fun _ _ => True)
    (fun history hub => Mirrors hub (history.flatMap Prod.snd)) ?_ _
    ⟨fun _ => rfl, fun _ _ hclient => (Option.some_ne_none _ hclient.symm).elim⟩ _
    ((hub Data db).along_true _ events)
  intro history s event _ h
  rw [List.flatMap_append, List.flatMap_singleton]
  exact h.step db event

theorem silent_run (db : Bool) (events : List (Event Data)) {slice : Slice}
    (h : .wrote slice false ∈ notes db events) : slice.Silent := by
  obtain ⟨segment, hsegment, hnote⟩ := List.mem_flatMap.mp h
  obtain ⟨before, later, hcut⟩ := List.append_of_mem hsegment
  obtain ⟨first, event, -, -, -, rfl⟩ := (hub Data db).exists_of_trace_eq hcut
  cases noted_step hnote with
  | silent hsilent => exact hsilent

theorem attentive_run (events : List (Event Data)) :
    Attentive (after false events) (notes false events) := by
  refine @Machine.history_invariant _ _ _ (hub Data false) (fun _ _ => True)
    (fun history hub => Attentive hub (history.flatMap Prod.snd)) ?_ _ ?_ _
    ((hub Data false).along_true _ events)
  · intro history s event _ h
    rw [List.flatMap_append, List.flatMap_singleton]
    exact h.step event
  · intro browser slice hbrowser
    exact absurd hbrowser (by simp)

end

end PatrolBot.Mirror
