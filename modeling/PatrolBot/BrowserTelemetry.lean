import PatrolBot.Library.Machine
import PatrolBot.Py

/-!
# The dashboard's telemetry store

`frontend/src/stores/telemetryStore.ts`, as far as the measured motion and the base
state go: the frames and the loss of the socket that touch either, with what they
touch of the other.  The rest of the store takes no part in it.
-/

namespace PatrolBot.Dashboard

/-! ### Decoded values -/

/-- A decoded value that is compared by what it is, not by which object it is. -/
inductive Primitive where
  | null
  | bool (value : Bool)
  | number (value : PyFloat)
  | text (value : String)
deriving DecidableEq

/-- The double an integer of a JSON text is read as. -/
def doubleOf (n : Int) : PyFloat :=
  match floatOfInt n with
  | some q => .finite q
  | none => .inf (decide (n < 0))

def primitive : Json → Option Primitive
  | .null => some .null
  | .bool value => some (.bool value)
  | .int n => some (.number (doubleOf n))
  | .float value => some (.number value)
  | .str value => some (.text value)
  | .list _ => none
  | .obj _ => none

/-- `left === right` of two decoded values that are not parts of one another. -/
def strictEqual (left right : Json) : Bool :=
  (primitive left).any fun value => value != .number .nan && primitive right == some value

/-- `typeof value === "number" && Number.isFinite(value)`, with the number. -/
def finiteJs (value : Json) : Option ℚ :=
  match primitive value with
  | some (.number (.finite q)) => some q
  | _ => none

/-- `Number.isSafeInteger(value)`. -/
def isSafeInteger (value : Json) : Bool :=
  (finiteJs value).any fun q => decide (q.den = 1) && decide (|q| ≤ 2 ^ 53 - 1)

/-! ### Slices and frames -/

/-- `MotionData`, as it comes from the wire. -/
structure MotionData where
  linearVelocity : Json
  angularVelocity : Json
  source : Json
  sampleAge : Json
  receiptAge : Json
  sessionGeneration : Json
  odomEpoch : Json
  odomEpochGeneration : Json

/-- The part of `BaseStateData` that binds a motion. -/
structure BaseSlice where
  sessionGeneration : Json

/-- The part of `SnapshotData` about connection, base state and motion. -/
structure SnapshotData where
  connectionState : String
  baseState : Option BaseSlice
  motion : Option MotionData
  baseStateAge : Option ℚ
  motionAge : Option ℚ

/-- What the store handles: a frame with the readings of `performance.now()` and of
    the wall clock it takes, its envelope's time as `Date.parse` reads it, or the
    socket. -/
inductive StoreEvent where
  | snapshot (data : SnapshotData) (now wall : ℚ) (sent : Option ℚ)
  | connection (state : String)
  | baseState (data : BaseSlice) (now : ℚ)
  | motion (data : MotionData) (now wall : ℚ) (sent : Option ℚ)
  /-- A frame of another slice. -/
  | other
  | setWsConnected (connected : Bool)

/-- The slices of `TelemetryState`. -/
structure TelemetryStore where
  wsConnected : Bool := false
  connectionState : String := "offline"
  baseState : Option BaseSlice := none
  baseStateAt : Option ℚ := none
  motion : Option MotionData := none
  motionAt : Option ℚ := none
  motionTransportAge : Option PyFloat := none

/-! ### The handlers -/

/-- `motionTransportAgeMs`. -/
def motionTransportAgeMs (sent : Option ℚ) (wall : ℚ) : PyFloat :=
  match sent with
  | none => .inf false
  | some sent =>
    if wall - sent < -1000 then .inf false
    else if wall - sent ≤ 0 then .finite 0
    else .finite (min (wall - sent) 5000)

/-- A time in seconds. -/
def seconds : PyFloat → PyFloat
  | .finite value => .finite (value / 1000)
  | value => value

/-- The checks of `motionSuperseded` on the sample itself. -/
def wellFormed (sample : MotionData) : Bool :=
  match finiteJs sample.linearVelocity, finiteJs sample.angularVelocity,
    finiteJs sample.sampleAge, finiteJs sample.receiptAge, sample.odomEpoch with
  | some linear, some angular, some sampleAge, some receiptAge, .str epoch =>
    strictEqual sample.source (.str "raw_odom") && decide (0 ≤ sampleAge) &&
      decide (0 ≤ receiptAge) && decide (|linear| ≤ 5) && decide (|angular| ≤ 10) &&
      isSafeInteger sample.sessionGeneration && isSafeInteger sample.odomEpochGeneration &&
      decide (0 < epoch.length) && decide (epoch.length ≤ 128)
  | _, _, _, _, _ => false

/-- `motionSuperseded`. -/
def motionSuperseded (sample : MotionData) (base : Option BaseSlice)
    (current : Option MotionData) : Bool :=
  if wellFormed sample = false then true
  else if base.any fun base =>
      !strictEqual sample.sessionGeneration base.sessionGeneration then true
  else current.any fun current =>
    match finiteJs sample.odomEpochGeneration, finiteJs current.odomEpochGeneration with
    | some sample, some current => decide (sample < current)
    | _, _ => false

namespace TelemetryStore

variable (store : TelemetryStore)

/-- `motion: null`, with what belongs to it. -/
def clearMotion : TelemetryStore :=
  { store with motion := none, motionAt := none, motionTransportAge := none }

/-- The frame `server.snapshot`. -/
def handleSnapshot (data : SnapshotData) (now wall : ℚ) (sent : Option ℚ) : TelemetryStore :=
  let receivedAt (age : Option ℚ) : Option ℚ := age.map fun age => now - age * 1000
  let motion := data.motion.filter fun motion => !motionSuperseded motion data.baseState none
  { store with
    connectionState := data.connectionState
    baseState := data.baseState
    baseStateAt := receivedAt data.baseStateAge
    motion := motion
    motionAt := motion.bind fun _ => receivedAt data.motionAge
    motionTransportAge := motion.map fun _ => seconds (motionTransportAgeMs sent wall) }

/-- The frame `state.connection`. -/
def handleConnection (state : String) : TelemetryStore :=
  if state = "online" ∧ store.connectionState = "offline" then
    { store.clearMotion with connectionState := state }
  else if state ≠ "online" then { store.clearMotion with connectionState := state }
  else { store with connectionState := state }

/-- The frame `telemetry.base_state`. -/
def handleBaseState (data : BaseSlice) (now : ℚ) : TelemetryStore :=
  let kept := if store.baseState.any fun held =>
      !strictEqual data.sessionGeneration held.sessionGeneration then store.clearMotion else store
  { kept with baseState := some data, baseStateAt := some now }

/-- The frame `telemetry.motion`. -/
def handleMotion (data : MotionData) (now wall : ℚ) (sent : Option ℚ) : TelemetryStore :=
  if motionSuperseded data store.baseState store.motion then store
  else { store with
    motion := some data
    motionAt := some now
    motionTransportAge := some (seconds (motionTransportAgeMs sent wall)) }

/-- `setWsConnected`. -/
def setConnected (connected : Bool) : TelemetryStore :=
  if connected then { store with wsConnected := true }
  else { store.clearMotion with wsConnected := false, connectionState := "offline" }

/-- One event. -/
def step : StoreEvent → TelemetryStore
  | .snapshot data now wall sent => store.handleSnapshot data now wall sent
  | .connection state => store.handleConnection state
  | .baseState data now => store.handleBaseState data now
  | .motion data now wall sent => store.handleMotion data now wall sent
  | .other => store
  | .setWsConnected connected => store.setConnected connected

end TelemetryStore

/-- The store as a machine. -/
def telemetryStore : Machine TelemetryStore StoreEvent Empty where
  step store event := (store.step event, [])

/-! ### The session of a motion -/

theorem strictEqual_eq_true {left right : Json} :
    strictEqual left right = true ↔
      ∃ value, primitive left = some value ∧ value ≠ .number .nan ∧
        primitive right = some value := by
  simp [strictEqual, Option.any_eq_true]

theorem strictEqual_symm {left right : Json} (h : strictEqual left right = true) :
    strictEqual right left = true := by
  obtain ⟨value, hleft, hvalue, hright⟩ := strictEqual_eq_true.mp h
  exact strictEqual_eq_true.mpr ⟨value, hright, hvalue, hleft⟩

theorem strictEqual_trans {left middle right : Json} (h : strictEqual left middle = true)
    (h' : strictEqual middle right = true) : strictEqual left right = true := by
  obtain ⟨value, hleft, hvalue, hmiddle⟩ := strictEqual_eq_true.mp h
  obtain ⟨value', hmiddle', -, hright⟩ := strictEqual_eq_true.mp h'
  obtain rfl := Option.some.inj (hmiddle.symm.trans hmiddle')
  exact strictEqual_eq_true.mpr ⟨value, hleft, hvalue, hright⟩

namespace TelemetryStore

/-- A motion and a base state that are both there are of one session. -/
def Bound (store : TelemetryStore) : Prop :=
  ∀ motion base, store.motion = some motion → store.baseState = some base →
    strictEqual motion.sessionGeneration base.sessionGeneration = true

/-- The first base state of a store does not come upon the motion of another session. -/
def Foreseen (store : TelemetryStore) (event : StoreEvent) : Prop :=
  ∀ data now motion, event = .baseState data now → store.baseState = none →
    store.motion = some motion →
    strictEqual motion.sessionGeneration data.sessionGeneration = true

section

variable {store : TelemetryStore}

/-- A motion that is let in is of the session of the base state. -/
theorem generation_of_not_superseded {sample : MotionData} {base : Option BaseSlice}
    {current : Option MotionData} (h : motionSuperseded sample base current = false)
    {held : BaseSlice} (hheld : base = some held) :
    strictEqual sample.sessionGeneration held.sessionGeneration = true := by
  unfold motionSuperseded at h
  split at h
  · cases h
  · split at h
    · cases h
    · rename_i hsession
      simpa [hheld] using hsession

theorem bound_of_clear (h : store.motion = none) : store.Bound := by
  intro motion base hmotion
  rw [h] at hmotion
  cases hmotion

theorem bound_handleSnapshot (data : SnapshotData) (now wall : ℚ) (sent : Option ℚ) :
    (store.handleSnapshot data now wall sent).Bound := by
  intro motion base hmotion hbase
  obtain ⟨-, hkept⟩ := Option.filter_eq_some_iff.mp hmotion
  rw [Bool.not_eq_true'] at hkept
  exact generation_of_not_superseded hkept hbase

theorem bound_handleMotion (h : store.Bound) (data : MotionData) (now wall : ℚ)
    (sent : Option ℚ) : (store.handleMotion data now wall sent).Bound := by
  unfold handleMotion
  split
  · exact h
  · rename_i hkept
    intro motion base hmotion hbase
    obtain rfl := Option.some.inj hmotion
    exact generation_of_not_superseded (by simpa using hkept) hbase

/-- A base state keeps the binding exactly if it is foreseen: one that follows
    another drops the motion of the session before. -/
theorem bound_handleBaseState (h : store.Bound) (data : BaseSlice) (now : ℚ) :
    (store.handleBaseState data now).Bound ↔ store.Foreseen (.baseState data now) := by
  unfold handleBaseState
  cases hheld : store.baseState with
  | none =>
    constructor
    · rintro hbound _ _ motion ⟨⟩ _ hmotion
      exact hbound motion data hmotion rfl
    · intro hforeseen motion base hmotion hbase
      obtain rfl := Option.some.inj hbase
      exact hforeseen _ _ motion rfl hheld hmotion
  | some held =>
    constructor
    · rintro - _ _ _ ⟨⟩ hnone
      rw [hheld] at hnone
      cases hnone
    · rintro - motion base hmotion hbase
      obtain rfl := Option.some.inj hbase
      by_cases hsame : strictEqual data.sessionGeneration held.sessionGeneration = true
      · simp only [Option.any_some, hsame] at hmotion
        exact strictEqual_trans (h motion held hmotion hheld) (strictEqual_symm hsame)
      · simp only [Option.any_some, hsame] at hmotion
        cases hmotion

theorem foreseen_of_ne {event : StoreEvent} (h : ∀ data now, event ≠ .baseState data now) :
    store.Foreseen event :=
  fun data now _ hevent => absurd hevent (h data now)

theorem bound_step (h : store.Bound) (event : StoreEvent) :
    (store.step event).Bound ↔ store.Foreseen event := by
  cases event with
  | baseState data now => exact bound_handleBaseState h data now
  | snapshot data now wall sent =>
    exact iff_of_true (bound_handleSnapshot data now wall sent) (foreseen_of_ne (by simp))
  | motion data now wall sent =>
    exact iff_of_true (bound_handleMotion h data now wall sent) (foreseen_of_ne (by simp))
  | connection state =>
    refine iff_of_true ?_ (foreseen_of_ne (by simp))
    simp only [step, handleConnection]
    split
    · exact bound_of_clear rfl
    · split
      · exact bound_of_clear rfl
      · exact h
  | other => exact iff_of_true h (foreseen_of_ne (by simp))
  | setWsConnected connected =>
    refine iff_of_true ?_ (foreseen_of_ne (by simp))
    simp only [step, setConnected]
    split
    · exact h
    · exact bound_of_clear rfl

end

end TelemetryStore

open TelemetryStore

/-- In every run of frames and socket changes the stored motion and the stored base
    state are of one session in every state exactly if no base state comes to a store
    that has none but has the motion of another session. -/
theorem motion_bound_run (events : List StoreEvent) :
    (∀ earlier later, events = earlier ++ later → (telemetryStore.run {} earlier).Bound) ↔
      telemetryStore.Along Foreseen {} events :=
  telemetryStore.invariant_iff Bound (fun _ event h => bound_step h event) (bound_of_clear rfl)

/-- A standing robot's sample of that session. -/
def sampleMotion (generation : Int) : MotionData where
  linearVelocity := .int 0
  angularVelocity := .int 0
  source := .str "raw_odom"
  sampleAge := .float (.finite (1 / 10))
  receiptAge := .float (.finite (1 / 10))
  sessionGeneration := .int generation
  odomEpoch := .str "boot"
  odomEpochGeneration := .int 1

/-- A motion of the fifth session that waits for a base state gets one of the sixth. -/
theorem not_motion_bound :
    let store := telemetryStore.run {} [.motion (sampleMotion 5) 10 10 (some 10),
      .baseState ⟨.int 6⟩ 11]
    ∃ motion base, store.motion = some motion ∧ store.baseState = some base ∧
      strictEqual motion.sessionGeneration base.sessionGeneration = false := by
  intro store
  have hmotion : motionSuperseded (sampleMotion 5) none none = false := by decide +kernel
  refine ⟨sampleMotion 5, ⟨.int 6⟩, ?_, rfl, by decide +kernel⟩
  simp [store, telemetryStore, step, handleMotion, handleBaseState, hmotion]

end PatrolBot.Dashboard
