import PatrolBot.Library.Machine
import PatrolBot.TelemetryFrames

/-!
# The measured motion the server keeps

The slices for the base state and the measured motion of `telemetry/store.py`, and the three
places in `telemetry/hub.py` that move them: a connection, its end, and the frames that
come in between.  A frame, a connection and its end are each handled without a suspension
that lets another one in.
-/

namespace PatrolBot.Hub

open Shape

/-- A `Slice` that holds something: the validated payload and when it was received. -/
structure Slice where
  payload : List (String × Json)
  receivedMono : ℚ

namespace Slice

def sessionGeneration (slice : Slice) : Option Int := wholeAt slice.payload "session_generation"

def odomEpochGeneration (slice : Slice) : Option Int :=
  wholeAt slice.payload "odom_epoch_generation"

end Slice

/-- A `RobotSession` with the gateway that serves it. -/
structure Connection where
  robotId : String
  connectedMono : ℚ
  lastSequence : Int := -1
  /-- The gateway still receives frames. -/
  isOpen : Bool := true

/-- The sessions by number, the one that `robots` holds for each robot, and the two slices
    of each robot's state. -/
structure MotionHub where
  connections : List Connection := []
  robots : String → Option Nat := fun _ => none
  baseState : String → Option Slice := fun _ => none
  motion : String → Option Slice := fun _ => none

inductive MotionEvent where
  /-- `robot_connected`, at this time of the monotonic clock. -/
  | connected (robotId : String) (now : ℚ)
  /-- The gateway of a connection receives a frame. -/
  | received (connection : Nat) (envelope : Envelope) (now : ℚ) (readings : Readings)
  /-- The gateway's loop ends, and `robot_disconnected` runs. -/
  | disconnected (connection : Nat)

/-- What an observer of the slices notes. -/
inductive MotionNote where
  /-- A motion was stored. -/
  | stored (connection : Nat) (robotId : String) (slice : Slice)
  /-- A base state of another session than the one before was stored. -/
  | rebased (robotId : String)

namespace MotionHub

variable (hub : MotionHub)

/-- `robot_connected`. -/
def connect (robotId : String) (now : ℚ) : MotionHub :=
  { hub with
    connections := hub.connections ++ [{ robotId := robotId, connectedMono := now }]
    robots := Function.update hub.robots robotId (some hub.connections.length)
    motion := Function.update hub.motion robotId none }

/-- `robot_disconnected`; the session of a newer connection is left alone. -/
def disconnect (number : Nat) (connection : Connection) : MotionHub :=
  let closed := { hub with
    connections := hub.connections.set number { connection with isOpen := false } }
  if hub.robots connection.robotId = some number then
    { closed with motion := Function.update hub.motion connection.robotId none }
  else closed

/-- `record_base_state`. -/
def recordBaseState (robotId : String) (slice : Slice) : MotionHub :=
  let stale := (hub.motion robotId).any fun motion =>
    motion.sessionGeneration != slice.sessionGeneration
  { hub with
    motion := if stale then Function.update hub.motion robotId none else hub.motion
    baseState := Function.update hub.baseState robotId (some slice) }

/-- The base state of another session follows the one before. -/
def rebases (robotId : String) (slice : Slice) : Bool :=
  (hub.baseState robotId).any fun base => base.sessionGeneration != slice.sessionGeneration

/-- `record_motion`. -/
def recordMotion (number : Nat) (robotId : String) (slice : Slice) :
    MotionHub × List MotionNote :=
  if (hub.baseState robotId).any fun base =>
      slice.sessionGeneration != base.sessionGeneration then (hub, [])
  else ({ hub with motion := Function.update hub.motion robotId (some slice) },
    [.stored number robotId slice])

/-- What the checks of a motion read. -/
def robotState (number : Nat) (connection : Connection) : RobotState where
  current := hub.robots connection.robotId == some number
  connectedMono := connection.connectedMono
  baseGeneration := (hub.baseState connection.robotId).bind Slice.sessionGeneration
  baseReceived := (hub.baseState connection.robotId).map Slice.receivedMono
  motionEpochGeneration := (hub.motion connection.robotId).bind Slice.odomEpochGeneration
  batteryEstimate := none

/-- `handle_robot_message`, for the two types that move the slices. -/
def handle (number : Nat) (connection : Connection) (now : ℚ) (readings : Readings)
    (kind : MessageType) (payload : Json) : MotionHub × List MotionNote :=
  if hub.robots connection.robotId ≠ some number then (hub, [])
  else match kind, payload with
    | .baseState, .obj payload =>
      (hub.recordBaseState connection.robotId ⟨payload, now⟩,
        if hub.rebases connection.robotId ⟨payload, now⟩ then [.rebased connection.robotId]
        else [])
    | .motion, payload => match motionOut (hub.robotState number connection) readings payload with
      | some (.obj out) => hub.recordMotion number connection.robotId ⟨out, now⟩
      | _ => (hub, [])
    | _, _ => (hub, [])

/-- The gateway's loop: frames that do not decode, of another robot or out of order are
    dropped. -/
def receive (coercions : Coercions) (number : Nat) (connection : Connection)
    (envelope : Envelope) (now : ℚ) (readings : Readings) : MotionHub × List MotionNote :=
  match decode coercions envelope with
  | none => (hub, [])
  | some (kind, payload) =>
    if envelope.robotId ≠ connection.robotId ∨ envelope.sequence ≤ connection.lastSequence then
      (hub, [])
    else
      let connection := { connection with lastSequence := envelope.sequence }
      let counted := { hub with connections := hub.connections.set number connection }
      counted.handle number connection now readings kind payload

def step (coercions : Coercions) : MotionEvent → MotionHub × List MotionNote
  | .connected robotId now => (hub.connect robotId now, [])
  | .received number envelope now readings => match hub.connections[number]? with
    | none => (hub, [])
    | some connection =>
      if connection.isOpen then hub.receive coercions number connection envelope now readings
      else (hub, [])
  | .disconnected number => match hub.connections[number]? with
    | none => (hub, [])
    | some connection =>
      if connection.isOpen then (hub.disconnect number connection, []) else (hub, [])

end MotionHub

def motionHub (coercions : Coercions) : Machine MotionHub MotionEvent MotionNote where
  step hub event := hub.step coercions event

/-- What a run has noted. -/
def notes (coercions : Coercions) (events : List MotionEvent) : List MotionNote :=
  ((motionHub coercions).trace {} events).flatMap Prod.snd

/-- A motion is kept only with a base state of its session. -/
def Bound (hub : MotionHub) : Prop :=
  ∀ robotId motion, hub.motion robotId = some motion → ∃ base generation,
    hub.baseState robotId = some base ∧ base.sessionGeneration = some generation ∧
      motion.sessionGeneration = some generation

/-- The odometry epoch of the second motion is not before the first one's. -/
def NotBefore (first second : Slice) : Prop :=
  ∃ earlier later, first.odomEpochGeneration = some earlier ∧
    second.odomEpochGeneration = some later ∧ earlier ≤ later

/-- The epoch does not fall between two motions of one connection without a change of the
    base's session between them. -/
def Ascending (log : List MotionNote) : Prop :=
  ∀ before middle after connection robotId other first second,
    log = before ++ .stored connection robotId first :: middle ++
      .stored connection other second :: after →
    .rebased robotId ∉ middle → NotBefore first second

/-! ### Validated payloads -/

theorem wholeAt_eq_some {payload : List (String × Json)} {key : String} {n : Int}
    (h : Json.lookup key payload = some (.int n)) : wholeAt payload key = some n := by
  rw [wholeAt, Json.get, h]
  rfl

theorem wholeAt_withReceiptAge {age : ℚ} {payload : List (String × Json)} {key : String}
    (hkey : key ≠ "receipt_age_s") : wholeAt (withReceiptAge age payload) key =
      wholeAt payload key := by
  have hlookup : Json.lookup key (withReceiptAge age payload) = Json.lookup key payload := by
    induction payload with
    | nil => rfl
    | cons field payload ih =>
      obtain ⟨name, value⟩ := field
      simp only [withReceiptAge, List.map_cons] at ih ⊢
      by_cases hname : name = key
      · rw [if_neg (by rw [hname]; exact hkey), Json.lookup, Json.lookup, if_pos hname,
          if_pos hname]
      · split
        · rw [Json.lookup, Json.lookup, if_neg hname, if_neg hname, ih]
        · rw [Json.lookup, Json.lookup, if_neg hname, if_neg hname, ih]
  rw [wholeAt, wholeAt, Json.get, Json.get, hlookup]

/-- A motion that passes its checks is of the base's session and not of an older epoch. -/
theorem motionOut_sound {coercions : Coercions} {state : RobotState} {readings : Readings}
    {data out : List (String × Json)} {payload : Json}
    (hpayload : validate coercions (.record true motionData) (.obj data) = some payload)
    (hout : motionOut state readings payload = some (.obj out)) :
    ∃ generation epoch, state.baseGeneration = some generation ∧
      wholeAt out "session_generation" = some generation ∧
      wholeAt out "odom_epoch_generation" = some epoch ∧
      ∀ current, state.motionEpochGeneration = some current → current ≤ epoch := by
  cases payload with
  | obj payload =>
    obtain ⟨epoch, hepoch⟩ := exists_int_of_required hpayload
      (show (motionData.find? fun field => field.1 == "odom_epoch_generation") = _ from rfl)
    have hepoch := wholeAt_eq_some hepoch
    simp only [motionOut] at hout
    split at hout
    · cases hout
    · rename_i haccepted
      split at hout
      · cases hout
      · split at hout
        · cases hout
        · obtain rfl := Json.obj.inj (Option.some.inj hout)
          rw [wholeAt_withReceiptAge (by decide), wholeAt_withReceiptAge (by decide)]
          simp only [motionRefused, hepoch] at haccepted
          split at haccepted
          · rename_i generation received hgeneration hreceived
            simp only [Bool.or_eq_true, decide_eq_true_eq, not_or, not_not] at haccepted
            refine ⟨generation, epoch, hgeneration, haccepted.1.2, hepoch, ?_⟩
            intro current hcurrent
            rw [hcurrent] at haccepted
            simpa using haccepted.2
          · exact absurd rfl haccepted
  | _ => cases hout

/-! ### The invariant -/

namespace NotBefore

variable {first second third : Slice}

theorem trans (h : NotBefore first second) (h' : NotBefore second third) :
    NotBefore first third := by
  obtain ⟨earlier, middle, hearlier, hmiddle, hle⟩ := h
  obtain ⟨same, later, hsame, hlater, hle'⟩ := h'
  obtain rfl := Option.some.inj (hmiddle.symm.trans hsame)
  exact ⟨earlier, later, hearlier, hlater, hle.trans hle'⟩

end NotBefore

/-- The motion that a robot's last connection stored since the base's session last changed
    is followed up by the one that is kept. -/
structure Tracks (log : List MotionNote) (hub : MotionHub) : Prop where
  bound : Bound hub
  current : ∀ robotId number, hub.robots robotId = some number →
    ∃ connection, hub.connections[number]? = some connection ∧ connection.robotId = robotId
  known : ∀ number robotId slice, .stored number robotId slice ∈ log →
    ∃ connection, hub.connections[number]? = some connection ∧ connection.robotId = robotId
  latest : ∀ before after number robotId first,
    log = before ++ .stored number robotId first :: after → .rebased robotId ∉ after →
    hub.robots robotId = some number →
    (∃ connection, hub.connections[number]? = some connection ∧ connection.isOpen = true) →
    ∃ motion, hub.motion robotId = some motion ∧ NotBefore first motion
  ascending : Ascending log

variable {log : List MotionNote} {hub : MotionHub}

theorem Tracks.connect (h : Tracks log hub) (robotId : String) (now : ℚ) :
    Tracks log (hub.connect robotId now) := by
  have hkept {number : Nat} {connection : Connection}
      (hold : hub.connections[number]? = some connection) :
      (hub.connect robotId now).connections[number]? = some connection := by
    rw [MotionHub.connect, List.getElem?_append_left]
    · exact hold
    · exact (List.getElem?_eq_some_iff.mp hold).1
  constructor
  · intro other motion hmotion
    by_cases hother : other = robotId
    · simp [MotionHub.connect, hother] at hmotion
    · simp only [MotionHub.connect, Function.update_of_ne hother] at hmotion
      exact h.bound other motion hmotion
  · intro other number hnumber
    by_cases hother : other = robotId
    · subst hother
      simp only [MotionHub.connect, Function.update_self, Option.some.injEq] at hnumber
      subst hnumber
      exact ⟨_, List.getElem?_concat_length, rfl⟩
    · simp only [MotionHub.connect, Function.update_of_ne hother] at hnumber
      obtain ⟨connection, hconnection, hrobot⟩ := h.current other number hnumber
      exact ⟨connection, hkept hconnection, hrobot⟩
  · intro number other slice hstored
    obtain ⟨connection, hconnection, hrobot⟩ := h.known number other slice hstored
    exact ⟨connection, hkept hconnection, hrobot⟩
  · intro before after number other first hlog hafter hnumber _
    obtain ⟨connection, hconnection, -⟩ := h.known number other first
      (by rw [hlog]; exact List.mem_append_right _ List.mem_cons_self)
    by_cases hother : other = robotId
    · -- The connection is the new one, and that has stored nothing.
      subst hother
      simp only [MotionHub.connect, Function.update_self, Option.some.injEq] at hnumber
      rw [← hnumber, List.getElem?_eq_none (Nat.le_refl _)] at hconnection
      cases hconnection
    · rename_i hopen
      obtain ⟨opened, hopened, hisOpen⟩ := hopen
      rw [hkept hconnection] at hopened
      simp only [MotionHub.connect, Function.update_of_ne hother] at hnumber ⊢
      exact h.latest before after number other first hlog hafter hnumber
        ⟨connection, hconnection, by rwa [Option.some.inj hopened]⟩
  · exact h.ascending

/-- The gateway's own fields may change, as long as it does not open again. -/
theorem Tracks.set (h : Tracks log hub) {number : Nat} {connection next : Connection}
    (hconnection : hub.connections[number]? = some connection)
    (hrobot : next.robotId = connection.robotId)
    (hopen : next.isOpen = true → connection.isOpen = true) :
    Tracks log { hub with connections := hub.connections.set number next } := by
  have hset {other : Nat} {old : Connection} (hold : hub.connections[other]? = some old) :
      ∃ new, (hub.connections.set number next)[other]? = some new ∧
        new.robotId = old.robotId ∧ (new.isOpen = true → old.isOpen = true) := by
    by_cases hother : number = other
    · subst hother
      obtain rfl := Option.some.inj (hconnection.symm.trans hold)
      refine ⟨next, ?_, hrobot, hopen⟩
      rw [List.getElem?_set_self (List.getElem?_eq_some_iff.mp hold).1]
    · exact ⟨old, by rw [List.getElem?_set_ne hother]; exact hold, rfl, fun h => h⟩
  constructor
  · exact h.bound
  · intro robotId other hother
    obtain ⟨old, hold, hsame⟩ := h.current robotId other hother
    obtain ⟨new, hnew, hrobot, -⟩ := hset hold
    exact ⟨new, hnew, hrobot.trans hsame⟩
  · intro other robotId slice hstored
    obtain ⟨old, hold, hsame⟩ := h.known other robotId slice hstored
    obtain ⟨new, hnew, hrobot, -⟩ := hset hold
    exact ⟨new, hnew, hrobot.trans hsame⟩
  · rintro before after other robotId first hlog hafter hcurrent ⟨opened, hopened, hisOpen⟩
    obtain ⟨old, hold, -⟩ := h.current robotId other hcurrent
    obtain ⟨new, hnew, -, hwas⟩ := hset hold
    obtain rfl := Option.some.inj (hopened.symm.trans hnew)
    exact h.latest before after other robotId first hlog hafter hcurrent ⟨old, hold, hwas hisOpen⟩
  · exact h.ascending

theorem Tracks.disconnect (h : Tracks log hub) {number : Nat} {connection : Connection}
    (hconnection : hub.connections[number]? = some connection) :
    Tracks log (hub.disconnect number connection) := by
  have hclosed := @Tracks.set _ _ h number connection { connection with isOpen := false }
    hconnection rfl nofun
  unfold MotionHub.disconnect
  split
  · rename_i hnumber
    refine ⟨?_, hclosed.current, hclosed.known, ?_, hclosed.ascending⟩
    · intro robotId motion hmotion
      by_cases hrobot : robotId = connection.robotId
      · simp [hrobot] at hmotion
      · simp only [Function.update_of_ne hrobot] at hmotion
        exact hclosed.bound robotId motion hmotion
    · rintro before after other robotId first hlog hafter hcurrent hopen
      by_cases hrobot : robotId = connection.robotId
      · -- It is the connection that has just been closed.
        subst hrobot
        obtain rfl := Option.some.inj (hnumber.symm.trans hcurrent)
        obtain ⟨opened, hopened, hisOpen⟩ := hopen
        rw [List.getElem?_set_self (List.getElem?_eq_some_iff.mp hconnection).1] at hopened
        rw [← Option.some.inj hopened] at hisOpen
        cases hisOpen
      · simp only [Function.update_of_ne hrobot]
        exact hclosed.latest before after other robotId first hlog hafter hcurrent hopen
  · exact hclosed

theorem motion_recordBaseState {robotId other : String} {slice motion : Slice} :
    (hub.recordBaseState robotId slice).motion other = some motion ↔
      hub.motion other = some motion ∧
        (other = robotId → motion.sessionGeneration = slice.sessionGeneration) := by
  unfold MotionHub.recordBaseState
  by_cases hother : other = robotId
  · subst hother
    cases hmotion : hub.motion other with
    | none => simp [hmotion]
    | some held =>
      by_cases hsame : held.sessionGeneration = slice.sessionGeneration
      · have hkept : held = motion → motion.sessionGeneration = slice.sessionGeneration := by
          rintro rfl
          exact hsame
        simpa [hmotion, hsame] using hkept
      · have hdropped : held = motion → ¬motion.sessionGeneration = slice.sessionGeneration := by
          rintro rfl
          exact hsame
        simpa [hmotion, hsame] using hdropped
  · dsimp only
    split
    · simp [hother]
    · simp [hother]

theorem Ascending.rebased (h : Ascending log) (robotId : String) :
    Ascending (log ++ [.rebased robotId]) := by
  intro before middle after connection other another first second hlog hmiddle
  rcases Machine.cut_concat hlog with ⟨-, hentry, -⟩ | ⟨rest, -, hold⟩
  · cases hentry
  · exact h before middle rest connection other another first second hold hmiddle

/-- A base state drops a motion of another session, and a change of the session is
    noted. -/
theorem Tracks.recordBaseState (h : Tracks log hub) (robotId : String) (slice : Slice) :
    Tracks (log ++ if hub.rebases robotId slice then [.rebased robotId] else [])
      (hub.recordBaseState robotId slice) := by
  have hbound : Bound (hub.recordBaseState robotId slice) := by
    intro other motion hmotion
    obtain ⟨hheld, hsame⟩ := motion_recordBaseState.mp hmotion
    obtain ⟨base, generation, hbase, hgeneration, hown⟩ := h.bound other motion hheld
    by_cases hother : other = robotId
    · refine ⟨slice, generation, ?_, ?_, hown⟩
      · simp [MotionHub.recordBaseState, hother]
      · rw [← hsame hother, hown]
    · refine ⟨base, generation, ?_, hgeneration, hown⟩
      simpa [MotionHub.recordBaseState, Function.update_of_ne hother] using hbase
  cases hrebases : hub.rebases robotId slice with
  | true =>
    rw [if_pos rfl]
    refine ⟨hbound, h.current, ?_, ?_, h.ascending.rebased robotId⟩
    · intro number other stored hstored
      rcases List.mem_append.mp hstored with hold | hnew
      · exact h.known number other stored hold
      · cases List.mem_singleton.mp hnew
    · intro before after number other first hlog hafter hcurrent hopen
      rcases Machine.cut_concat hlog with ⟨-, hentry, -⟩ | ⟨rest, rfl, hold⟩
      · cases hentry
      · obtain ⟨motion, hmotion, hle⟩ := h.latest before rest number other first hold
          (fun hmem => hafter (List.mem_append_left _ hmem)) hcurrent hopen
        refine ⟨motion, motion_recordBaseState.mpr ⟨hmotion, ?_⟩, hle⟩
        rintro rfl
        exact absurd (List.mem_append_right _ (List.mem_singleton_self _)) hafter
  | false =>
    rw [if_neg Bool.false_ne_true, List.append_nil]
    refine ⟨hbound, h.current, h.known, ?_, h.ascending⟩
    intro before after number other first hlog hafter hcurrent hopen
    obtain ⟨motion, hmotion, hle⟩ := h.latest before after number other first hlog hafter hcurrent
      hopen
    refine ⟨motion, motion_recordBaseState.mpr ⟨hmotion, ?_⟩, hle⟩
    rintro rfl
    obtain ⟨base, generation, hbase, hgeneration, hown⟩ := h.bound other motion hmotion
    have hsame : base.sessionGeneration = slice.sessionGeneration := by
      simpa [MotionHub.rebases, hbase] using hrebases
    rw [hown, ← hgeneration, hsame]

theorem Tracks.recordMotion (h : Tracks log hub) {number : Nat} {connection : Connection}
    {slice : Slice} (hconnection : hub.connections[number]? = some connection)
    (hopen : connection.isOpen = true)
    (hcurrent : hub.robots connection.robotId = some number) {generation epoch : Int}
    (hbase : (hub.baseState connection.robotId).bind Slice.sessionGeneration = some generation)
    (hgeneration : slice.sessionGeneration = some generation)
    (hepoch : slice.odomEpochGeneration = some epoch)
    (hlater : ∀ current,
      (hub.motion connection.robotId).bind Slice.odomEpochGeneration = some current →
        current ≤ epoch) :
    Tracks (log ++ (hub.recordMotion number connection.robotId slice).2)
      (hub.recordMotion number connection.robotId slice).1 := by
  obtain ⟨base, hheld, hown⟩ := Option.bind_eq_some_iff.mp hbase
  have hrecord : hub.recordMotion number connection.robotId slice =
      ({ hub with motion := Function.update hub.motion connection.robotId (some slice) },
        [.stored number connection.robotId slice]) := by
    rw [MotionHub.recordMotion, if_neg]
    simp [hheld, hown, hgeneration]
  have hself : NotBefore slice slice := ⟨epoch, epoch, hepoch, hepoch, le_rfl⟩
  -- Whatever this connection stored under the base's session is not after the new sample.
  have hafterwards {before rest : List MotionNote} {first : Slice}
      (hold : log = before ++ .stored number connection.robotId first :: rest)
      (hrest : .rebased connection.robotId ∉ rest) : NotBefore first slice := by
    obtain ⟨motion, hmotion, hle⟩ := h.latest before rest number connection.robotId first hold hrest
      hcurrent ⟨connection, hconnection, hopen⟩
    obtain ⟨earlier, middle, hearlier, hmiddle, hle⟩ := hle
    exact ⟨earlier, epoch, hearlier, hepoch,
      hle.trans (hlater middle (by rw [hmotion]; exact hmiddle))⟩
  rw [hrecord]
  constructor
  · intro other motion hmotion
    by_cases hother : other = connection.robotId
    · subst hother
      simp only [Function.update_self, Option.some.injEq] at hmotion
      rw [← hmotion]
      exact ⟨base, generation, hheld, hown, hgeneration⟩
    · simp only [Function.update_of_ne hother] at hmotion
      exact h.bound other motion hmotion
  · exact h.current
  · intro other robotId stored hstored
    rcases List.mem_append.mp hstored with hold | hnew
    · exact h.known other robotId stored hold
    · obtain ⟨rfl, rfl, rfl⟩ := MotionNote.stored.inj (List.mem_singleton.mp hnew)
      exact ⟨connection, hconnection, rfl⟩
  · intro before after other robotId first hlog hafter hnumber hserved
    rcases Machine.cut_concat hlog with ⟨-, hentry, -⟩ | ⟨rest, rfl, hold⟩
    · obtain ⟨rfl, rfl, rfl⟩ := MotionNote.stored.inj hentry
      exact ⟨first, Function.update_self .., hself⟩
    · have hrest : .rebased robotId ∉ rest := fun hmem => hafter (List.mem_append_left _ hmem)
      by_cases hrobot : robotId = connection.robotId
      · subst hrobot
        obtain rfl := Option.some.inj (hcurrent.symm.trans hnumber)
        exact ⟨slice, Function.update_self .., hafterwards hold hrest⟩
      · obtain ⟨motion, hmotion, hle⟩ := h.latest before rest other robotId first hold hrest
          hnumber hserved
        exact ⟨motion, by simpa [Function.update_of_ne hrobot] using hmotion, hle⟩
  · intro before middle after other robotId another first second hlog hmiddle
    rcases Machine.cut_concat hlog with ⟨hold, hentry, -⟩ | ⟨rest, -, hold⟩
    · obtain ⟨rfl, rfl, rfl⟩ := MotionNote.stored.inj hentry
      obtain ⟨stored, hstored, hrobot⟩ := h.known other robotId first
        (by rw [← hold]; exact List.mem_append_right _ List.mem_cons_self)
      obtain rfl := Option.some.inj (hconnection.symm.trans hstored)
      subst hrobot
      exact hafterwards hold.symm hmiddle
    · exact h.ascending before middle rest other robotId another first second hold hmiddle

/-! ### Runs -/

theorem Tracks.handle (h : Tracks log hub) {coercions : Coercions} {number : Nat}
    {connection : Connection} {data : List (String × Json)} {kind : MessageType} {payload : Json}
    (hconnection : hub.connections[number]? = some connection) (hopen : connection.isOpen = true)
    (hpayload : validate coercions kind.model (.obj data) = some payload) (now : ℚ)
    (readings : Readings) :
    Tracks (log ++ (hub.handle number connection now readings kind payload).2)
      (hub.handle number connection now readings kind payload).1 := by
  unfold MotionHub.handle
  split
  · simpa using h
  · rename_i hcurrent
    rw [not_not] at hcurrent
    cases kind with
    | baseState =>
      cases payload with
      | obj payload => exact h.recordBaseState connection.robotId ⟨payload, now⟩
      | _ => simpa using h
    | motion =>
      dsimp only
      split
      · rename_i out hout
        obtain ⟨generation, epoch, hbase, hgeneration, hepoch, hlater⟩ :=
          motionOut_sound hpayload hout
        exact h.recordMotion hconnection hopen hcurrent hbase hgeneration hepoch hlater
      · simpa using h
    | _ => simpa using h

theorem Tracks.step (h : Tracks log hub) (coercions : Coercions) (event : MotionEvent) :
    Tracks (log ++ (hub.step coercions event).2) (hub.step coercions event).1 := by
  cases event with
  | connected robotId now =>
    rw [MotionHub.step, List.append_nil]
    exact h.connect robotId now
  | received number envelope now readings =>
    rw [MotionHub.step]
    split
    · simpa using h
    · rename_i connection hconnection
      split
      · rename_i hopen
        rw [MotionHub.receive]
        split
        · simpa using h
        · rename_i kind payload hdecoded
          split
          · simpa using h
          · obtain ⟨known, hknown, hvalidated⟩ := Option.bind_eq_some_iff.mp hdecoded
            obtain ⟨validated, hpayload, hpair⟩ := Option.map_eq_some_iff.mp hvalidated
            obtain ⟨rfl, rfl⟩ := Prod.mk.inj hpair
            have hcounted := @Tracks.set _ _ h number connection
              { connection with lastSequence := envelope.sequence } hconnection rfl
              (fun hstill => hstill)
            exact hcounted.handle
              (List.getElem?_set_self (List.getElem?_eq_some_iff.mp hconnection).1) hopen hpayload
              now readings
      · simpa using h
  | disconnected number =>
    rw [MotionHub.step]
    split
    · simpa using h
    · rename_i connection hconnection
      split
      · rw [List.append_nil]
        exact h.disconnect hconnection
      · simpa using h

theorem tracks_run (coercions : Coercions) (events : List MotionEvent) :
    Tracks (notes coercions events) ((motionHub coercions).run {} events) := by
  have hstart : Tracks [] ({} : MotionHub) :=
    ⟨nofun, nofun, nofun, fun _ _ _ _ _ hlog => by simp at hlog,
      fun _ _ _ _ _ _ _ _ hlog => by simp at hlog⟩
  apply (motionHub coercions).history_invariant
    (fun history hub => Tracks (history.flatMap Prod.snd) hub) _ hstart
    ((motionHub coercions).along_true {} events)
  intro history hub event _ h
  rw [List.flatMap_append, List.flatMap_singleton]
  exact h.step coercions event

/-- In every run a kept motion is of the session of the base state that is kept with it,
    and the odometry epoch does not fall on a connection while that session stays. -/
theorem motion_run (coercions : Coercions) (events : List MotionEvent) :
    Bound ((motionHub coercions).run {} events) ∧ Ascending (notes coercions events) :=
  ⟨(tracks_run coercions events).bound, (tracks_run coercions events).ascending⟩

end PatrolBot.Hub
