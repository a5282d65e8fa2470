import PatrolBot.BridgeTelemetry

/-!
# What a telemetry frame of the bridge vouches for

What each frame that the bridge sends says of the messages before it: which base state it is
bound to, which AMCL pose and which odometry it was made of, and that no other base state
came between that would have taken them back.
-/

namespace PatrolBot.BridgeNode

open Signals

/-! ### Messages so far -/

abbrev Events := List (Clock × Callback)

def Callback.report? : Callback → Option BaseReport
  | .baseState report => some report
  | _ => none

def reports (events : Events) : List (Clock × BaseReport) :=
  events.filterMap fun event => event.2.report?.map fun report => (event.1, report)

/-- The latest base state with the time of its arrival. -/
def latestReport (events : Events) : Option (Clock × BaseReport) :=
  latest some none (reports events)

/-- The odometry epoch that counts. -/
def epochOf (events : Events) : Option Origin :=
  (latestReport events).map fun report => report.2.origin

/-- The map that counts. -/
def mapOf (events : Events) : MapContext :=
  match latestReport events with
  | some (_, report) => (report.payload.mapId, report.payload.mapRevision)
  | none => (none, none)

def chargeReadings (events : Events) : List (String × ℚ) :=
  (reports events).map fun report => (report.2.payload.chargeState, report.1.mono)

/-- The latest base state as the node keeps it, with a charge state that has settled. -/
def latestSeen (config : Config) (events : Events) : Option BaseSeen :=
  (latestReport events).map fun (clock, report) =>
    let settled := Debounce.reported config.chargeSettleS (chargeReadings events)
    ⟨{ report.payload with chargeState := settled.getD report.payload.chargeState },
      clock.seconds, clock.mono⟩

/-- The value is the same all along the second list of events. -/
def Steady {α : Type} (f : Events → α) (before rest : Events) : Prop :=
  ∀ first, first <+: rest → f (before ++ first) = f before

/-- The message that arrived at a time, with nothing since that takes it back. -/
def Stands {α : Type} (f : Events → α) (callback : Callback) (clock : Clock) (events : Events) :
    Prop :=
  ∃ before rest, events = before ++ (clock, callback) :: rest ∧
    Steady f before ((clock, callback) :: rest)

section

variable {α : Type} {f : Events → α} {before rest events : Events} {clock : Clock}
variable {callback : Callback}

theorem reports_append (events' : Events) :
    reports (events ++ events') = reports events ++ reports events' :=
  List.filterMap_append

theorem latestReport_concat_none (h : callback.report? = none) :
    latestReport (events ++ [(clock, callback)]) = latestReport events := by
  rw [latestReport, reports_append]
  simp [reports, h, latestReport]

theorem latestReport_concat (report : BaseReport) :
    latestReport (events ++ [(clock, .baseState report)]) = some (clock, report) := by
  rw [latestReport, reports_append, latest_append]
  rfl

theorem epochOf_concat_none (h : callback.report? = none) :
    epochOf (events ++ [(clock, callback)]) = epochOf events := by
  rw [epochOf, latestReport_concat_none h, epochOf]

theorem mapOf_concat_none (h : callback.report? = none) :
    mapOf (events ++ [(clock, callback)]) = mapOf events := by
  rw [mapOf, latestReport_concat_none h, mapOf]

theorem chargeReadings_concat_none (h : callback.report? = none) :
    chargeReadings (events ++ [(clock, callback)]) = chargeReadings events := by
  rw [chargeReadings, reports_append]
  simp [reports, h, chargeReadings]

theorem chargeReadings_concat (report : BaseReport) :
    chargeReadings (events ++ [(clock, .baseState report)]) =
      chargeReadings events ++ [(report.payload.chargeState, clock.mono)] := by
  rw [chargeReadings, reports_append, List.map_append]
  rfl

theorem latestSeen_concat_none {config : Config} (h : callback.report? = none) :
    latestSeen config (events ++ [(clock, callback)]) = latestSeen config events := by
  rw [latestSeen, latestReport_concat_none h, chargeReadings_concat_none h, latestSeen]

/-- A message stands when it comes. -/
theorem stands_self (h : f (events ++ [(clock, callback)]) = f events) :
    Stands f callback clock (events ++ [(clock, callback)]) := by
  refine ⟨events, [], rfl, ?_⟩
  intro first hfirst
  rcases List.prefix_concat_iff.mp (show first <+: [] ++ [(clock, callback)] from hfirst) with
    rfl | hnil
  · exact h
  · rw [List.prefix_nil.mp hnil, List.append_nil]

/-- It stands as long as what it depends on does not change. -/
theorem Stands.concat (h : Stands f callback clock events) {event : Clock × Callback}
    (hsame : f (events ++ [event]) = f events) :
    Stands f callback clock (events ++ [event]) := by
  obtain ⟨before, rest, rfl, hsteady⟩ := h
  refine ⟨before, rest ++ [event], by simp, ?_⟩
  intro first hfirst
  rw [← List.cons_append] at hfirst
  rcases List.prefix_concat_iff.mp hfirst with rfl | hfirst
  · rw [← List.append_assoc, hsame]
    exact hsteady _ (List.prefix_refl _)
  · exact hsteady first hfirst

end

/-! ### What a callback can do -/

namespace Node

variable {config : Config} {clock : Clock} {node : Node}

/-- The pose that is sent of an AMCL pose. -/
def poseFrame (config : Config) (clock : Clock) (node : Node) (amcl : AmclPose) (arrival : ℚ) :
    Frame :=
  .pose amcl (node.odom.map Prod.fst) (clock.seconds - arrival) node.mapContext
    (node.localizationIsUsable config clock)

theorem maybeSendPose_cases (config : Config) (clock : Clock) (node : Node) :
    node.maybeSendPose config clock = (node, []) ∨
      config.poseInterval ≤ clock.mono - node.poseLast ∧
        (node.maybeSendPose config clock = ({ node with poseLast := clock.mono }, []) ∨
          ∃ amcl arrival, node.amcl = some (amcl, arrival) ∧ node.onActiveMap amcl.stampNs = true ∧
            node.maybeSendPose config clock = ({ node with poseLast := clock.mono },
              [node.poseFrame config clock amcl arrival])) := by
  by_cases hready : ready config.poseInterval node.poseLast clock.mono = true
  · refine Or.inr ⟨of_decide_eq_true hready, ?_⟩
    rw [maybeSendPose, if_pos hready]
    obtain ⟨origin, base, odom, fix, _, scanLast, pathLast, motionLast, points, attempt, charge⟩ :=
      node
    cases fix with
    | none => exact Or.inl rfl
    | some fix =>
      obtain ⟨amcl, arrival⟩ := fix
      dsimp only
      split
      · rename_i hmap
        exact Or.inr ⟨amcl, arrival, rfl, hmap, rfl⟩
      · exact Or.inl rfl
  · rw [maybeSendPose, if_neg hready]
    exact Or.inl rfl

theorem maybeSendMotion_cases (config : Config) (clock : Clock) (node : Node) :
    node.maybeSendMotion config clock = (node, []) ∨
      config.motionInterval ≤ clock.mono - node.motionLast ∧
        (node.maybeSendMotion config clock = ({ node with motionLast := clock.mono }, []) ∨
          ∃ payload, node.motionPayload config clock = some payload ∧
            node.maybeSendMotion config clock =
              ({ node with motionLast := clock.mono }, [.motion payload])) := by
  unfold maybeSendMotion
  by_cases hready : ready config.motionInterval node.motionLast clock.mono = true
  · right
    rw [if_pos hready]
    refine ⟨of_decide_eq_true hready, ?_⟩
    have hpayload : Node.motionPayload config clock { node with motionLast := clock.mono } =
      node.motionPayload config clock := rfl
    simp only [hpayload]
    cases node.motionPayload config clock with
    | none => exact Or.inl rfl
    | some payload => exact Or.inr ⟨payload, rfl, rfl⟩
  · left
    rw [if_neg hready]

/-- The base state of a report, with the charge state that has settled. -/
def settledState (clock : Clock) (report : BaseReport) (node : Node) : BaseState :=
  { report.payload with
    chargeState := ((node.chargeState.update report.payload.chargeState clock.mono).2).getD
      report.payload.chargeState }

/-- The node with a base state that has come in. -/
def absorb (clock : Clock) (report : BaseReport) (node : Node) : Node :=
  let sameMap := node.mapContext = (report.payload.mapId, report.payload.mapRevision)
  { node with
    origin := some report.origin
    odom := if node.origin = some report.origin then node.odom else none
    amcl := if sameMap then node.amcl else none
    lastPathPoints := if sameMap then node.lastPathPoints else none
    chargeState := (node.chargeState.update report.payload.chargeState clock.mono).1
    base := some ⟨node.settledState clock report, clock.seconds, clock.mono⟩ }

theorem onBaseState_eq (config : Config) (clock : Clock) (report : BaseReport) (node : Node) :
    ∃ age, node.onBaseState config clock report =
      let seeded := (node.absorb clock report).maybeSeedDockPose config clock
        (node.settledState clock report)
      (seeded.1, .baseState (node.settledState clock report) age :: seeded.2) := by
  unfold onBaseState absorb
  by_cases horigin : node.origin = some report.origin
  · simp only [if_pos horigin]
    by_cases hmap : node.mapContext = (report.payload.mapId, report.payload.mapRevision)
    · simp only [if_pos hmap, ← horigin]
      exact ⟨_, rfl⟩
    · simp only [if_neg hmap, ← horigin]
      exact ⟨_, rfl⟩
  · simp only [if_neg horigin]
    have hcontext : Node.mapContext { node with origin := some report.origin, odom := none } =
      node.mapContext := rfl
    simp only [hcontext]
    by_cases hmap : node.mapContext = (report.payload.mapId, report.payload.mapRevision)
    · simp only [if_pos hmap]
      exact ⟨_, rfl⟩
    · simp only [if_neg hmap]
      exact ⟨_, rfl⟩

theorem maybeSeedDockPose_cases (config : Config) (clock : Clock) (state : BaseState)
    (node : Node) :
    node.maybeSeedDockPose config clock state = (node, []) ∨
      config.commands = true ∧ config.autoDockPoseOnCharge = true ∧
        state.chargeState ∈ chargingStates ∧ node.localizationIsUsable config clock = false ∧
        config.autoDockPoseRetryS ≤ clock.seconds - node.lastDockPoseAttempt ∧
        node.maybeSeedDockPose config clock state =
          ({ node with lastDockPoseAttempt := clock.seconds }, [.seedDock]) := by
  unfold maybeSeedDockPose
  split
  · exact Or.inl rfl
  · rename_i hconfig
    split
    · exact Or.inl rfl
    · rename_i hcharging
      split
      · exact Or.inl rfl
      · rename_i husable
        split
        · exact Or.inl rfl
        · rename_i hretry
          right
          rw [not_or] at hconfig
          refine ⟨by simpa using hconfig.1, by simpa using hconfig.2, by simpa using hcharging,
            by simpa using husable, not_lt.mp hretry, rfl⟩

end Node

/-! ### What the node knows -/

/-- The node is what the messages so far make of it. -/
structure Knows (config : Config) (events : Events) (node : Node) : Prop where
  base : node.base = latestSeen config events
  origin : node.origin = epochOf events
  charge : node.chargeState = Debounce.after config.chargeSettleS (chargeReadings events)
  odom {message : Odometry} {mono : ℚ} : node.odom = some (message, mono) →
    ∃ clock : Clock, clock.mono = mono ∧ Stands epochOf (.odom message) clock events
  amcl {message : AmclPose} {seconds : ℚ} : node.amcl = some (message, seconds) →
    ∃ clock : Clock, clock.seconds = seconds ∧ Stands mapOf (.amcl message) clock events

section

variable {config : Config} {events : Events} {node next : Node} {clock : Clock}
variable {callback : Callback}

theorem knows_start (config : Config) : Knows config [] (start config) where
  base := rfl
  origin := rfl
  charge := rfl
  odom h := by cases h
  amcl h := by cases h

theorem Knows.mapContext (h : Knows config events node) : node.mapContext = mapOf events := by
  rw [Node.mapContext, h.base, latestSeen, mapOf]
  cases latestReport events with
  | none => rfl
  | some report => rfl

/-- A callback other than that of the base state. -/
theorem Knows.concat (h : Knows config events node) (hcallback : callback.report? = none)
    (hbase : next.base = node.base) (horigin : next.origin = node.origin)
    (hcharge : next.chargeState = node.chargeState)
    (hodom : next.odom = node.odom ∨
      ∃ message, callback = .odom message ∧ next.odom = some (message, clock.mono))
    (hamcl : next.amcl = node.amcl ∨
      ∃ message, callback = .amcl message ∧ next.amcl = some (message, clock.seconds)) :
    Knows config (events ++ [(clock, callback)]) next where
  base := by rw [hbase, h.base, latestSeen_concat_none hcallback]
  origin := by rw [horigin, h.origin, epochOf_concat_none hcallback]
  charge := by rw [hcharge, h.charge, chargeReadings_concat_none hcallback]
  odom hnext := by
    rcases hodom with hodom | ⟨message, rfl, hodom⟩
    · obtain ⟨clock, hclock, hstands⟩ := h.odom (hodom ▸ hnext)
      exact ⟨clock, hclock, hstands.concat (epochOf_concat_none hcallback)⟩
    · rw [hodom] at hnext
      cases hnext
      exact ⟨clock, rfl, stands_self (epochOf_concat_none hcallback)⟩
  amcl hnext := by
    rcases hamcl with hamcl | ⟨message, rfl, hamcl⟩
    · obtain ⟨clock, hclock, hstands⟩ := h.amcl (hamcl ▸ hnext)
      exact ⟨clock, hclock, hstands.concat (mapOf_concat_none hcallback)⟩
    · rw [hamcl] at hnext
      cases hnext
      exact ⟨clock, rfl, stands_self (mapOf_concat_none hcallback)⟩

theorem Knows.absorb (h : Knows config events node) (report : BaseReport) :
    Knows config (events ++ [(clock, .baseState report)]) (node.absorb clock report) where
  base := by
    have hsettled : Debounce.reported config.chargeSettleS
        (chargeReadings (events ++ [(clock, .baseState report)])) =
          (node.chargeState.update report.payload.chargeState clock.mono).2 := by
      rw [Debounce.reported, chargeReadings_concat, Debounce.after_concat, h.charge,
        ← Debounce.update_answer]
    rw [latestSeen, latestReport_concat, Option.map_some, hsettled]
    rfl
  origin := by
    rw [epochOf, latestReport_concat]
    rfl
  charge := by
    rw [chargeReadings_concat, Debounce.after_concat, ← h.charge]
    rfl
  odom hnext := by
    simp only [Node.absorb] at hnext
    split at hnext
    · rename_i hsame
      obtain ⟨clock, hclock, hstands⟩ := h.odom hnext
      refine ⟨clock, hclock, hstands.concat ?_⟩
      rw [← h.origin, hsame, epochOf, latestReport_concat, Option.map_some]
    · cases hnext
  amcl hnext := by
    simp only [Node.absorb] at hnext
    split at hnext
    · rename_i hsame
      obtain ⟨clock, hclock, hstands⟩ := h.amcl hnext
      refine ⟨clock, hclock, hstands.concat ?_⟩
      rw [← h.mapContext, hsame, mapOf, latestReport_concat]
    · cases hnext

/-- A state that differs in throttles, in the last path or in the last attempt only. -/
theorem Knows.congr (h : Knows config events node) (hbase : next.base = node.base)
    (horigin : next.origin = node.origin) (hcharge : next.chargeState = node.chargeState)
    (hodom : next.odom = node.odom) (hamcl : next.amcl = node.amcl) :
    Knows config events next where
  base := hbase.trans h.base
  origin := horigin.trans h.origin
  charge := hcharge.trans h.charge
  odom hnext := h.odom (hodom ▸ hnext)
  amcl hnext := h.amcl (hamcl ▸ hnext)

theorem Knows.sendPose (h : Knows config events node) :
    Knows config events (node.maybeSendPose config clock).1 := by
  rcases node.maybeSendPose_cases config clock with heq | ⟨-, heq | ⟨_, _, -, -, heq⟩⟩ <;>
    exact h.congr (by rw [heq]) (by rw [heq]) (by rw [heq]) (by rw [heq]) (by rw [heq])

theorem Knows.sendMotion (h : Knows config events node) :
    Knows config events (node.maybeSendMotion config clock).1 := by
  rcases node.maybeSendMotion_cases config clock with heq | ⟨-, heq | ⟨_, -, heq⟩⟩ <;>
    exact h.congr (by rw [heq]) (by rw [heq]) (by rw [heq]) (by rw [heq]) (by rw [heq])

theorem Knows.seed (h : Knows config events node) (state : BaseState) :
    Knows config events (node.maybeSeedDockPose config clock state).1 := by
  rcases node.maybeSeedDockPose_cases config clock state with heq | ⟨-, -, -, -, -, heq⟩ <;>
    exact h.congr (by rw [heq]) (by rw [heq]) (by rw [heq]) (by rw [heq]) (by rw [heq])

/-- The message of an odometry callback is taken in before anything is sent. -/
theorem Knows.takeOdom (h : Knows config events node) (message : Odometry) :
    Knows config (events ++ [(clock, .odom message)])
      { node with odom := some (message, clock.mono) } :=
  h.concat rfl rfl rfl rfl (Or.inr ⟨message, rfl, rfl⟩) (Or.inl rfl)

theorem Knows.takeAmcl (h : Knows config events node) (message : AmclPose) :
    Knows config (events ++ [(clock, .amcl message)])
      { node with amcl := some (message, clock.seconds) } :=
  h.concat rfl rfl rfl rfl (Or.inl rfl) (Or.inr ⟨message, rfl, rfl⟩)

/-- Every callback keeps the node what the messages make of it. -/
theorem Knows.handle (h : Knows config events node) (clock : Clock) (callback : Callback) :
    Knows config (events ++ [(clock, callback)]) (node.handle config clock callback).1 := by
  cases callback with
  | odom message => exact (h.takeOdom message).sendPose.sendMotion
  | amcl message => exact (h.takeAmcl message).sendPose
  | scan stampNs =>
    rw [Node.handle, Node.onScan]
    split <;> exact h.concat rfl rfl rfl rfl (Or.inl rfl) (Or.inl rfl)
  | plan stampNs points =>
    rw [Node.handle, Node.onPlan]
    split
    · exact h.concat rfl rfl rfl rfl (Or.inl rfl) (Or.inl rfl)
    · split
      · dsimp only
        split <;> exact h.concat rfl rfl rfl rfl (Or.inl rfl) (Or.inl rfl)
      · exact h.concat rfl rfl rfl rfl (Or.inl rfl) (Or.inl rfl)
  | baseState report =>
    obtain ⟨age, heq⟩ := node.onBaseState_eq config clock report
    rw [Node.handle, heq]
    exact (h.absorb report).seed _

theorem knows_after (config : Config) (events : Events) :
    Knows config events (after config events) := by
  induction events using List.reverseRecOn with
  | nil => exact knows_start config
  | append_singleton events event ih =>
    rw [after, Machine.run_append]
    exact ih.handle event.1 event.2

end

/-! ### A measured motion -/

section

variable {value : ℚ} {b : Int}

theorem round3_le (h : value ≤ b) : round3 value ≤ b := by
  have hhalf := abs_le.mp (Binary64.abs_halfEven_sub_le (value * 1000))
  have hlt : (Binary64.halfEven (value * 1000) : ℚ) < (b * 1000 + 1 : Int) := by
    push_cast
    linarith [hhalf.2]
  have hle : Binary64.halfEven (value * 1000) ≤ b * 1000 :=
    Int.lt_add_one_iff.mp (by exact_mod_cast hlt)
  rw [round3, div_le_iff₀ (by norm_num)]
  exact_mod_cast hle

theorem le_round3 (h : b ≤ value) : b ≤ round3 value := by
  have hhalf := abs_le.mp (Binary64.abs_halfEven_sub_le (value * 1000))
  have hlt : ((b * 1000 - 1 : Int) : ℚ) < Binary64.halfEven (value * 1000) := by
    push_cast
    linarith [hhalf.1]
  have hle : b * 1000 ≤ Binary64.halfEven (value * 1000) :=
    Int.sub_one_lt_iff.mp (by exact_mod_cast hlt)
  rw [round3, le_div_iff₀ (by norm_num)]
  exact_mod_cast hle

end

/-- The bounds that `normalize_motion` asks of what it makes a payload of. -/
structure Moderate (v w sampleAge receiptAge : ℚ) (g : Int) (epoch : String) (e : Int) : Prop where
  linear : |v| ≤ motionMaxAbsLinear
  angular : |w| ≤ motionMaxAbsAngular
  past : 0 ≤ sampleAge ∧ 0 ≤ receiptAge
  recent : sampleAge ≤ motionMaxAge ∧ receiptAge ≤ motionMaxAge
  session : 0 ≤ g ∧ g ≤ motionMaxGeneration
  short : epoch.length ≤ motionMaxEpochLength
  epoch : 0 ≤ e ∧ e ≤ motionMaxGeneration

section

variable {linear angular : PyFloat} {generation epochGeneration : Option Int}
variable {epoch : Option String} {sampleAge receiptAge : ℚ} {payload : List (String × Json)}

theorem normalizeMotion_eq_some
    (h : normalizeMotion linear angular generation epoch epochGeneration sampleAge receiptAge =
      some payload) :
    ∃ v w g e, linear = .finite v ∧ angular = .finite w ∧ generation = some g ∧
      epochGeneration = some e ∧ Moderate v w sampleAge receiptAge g (epoch.getD "") e ∧
      payload = motionFields v w sampleAge receiptAge g (epoch.getD "") e := by
  unfold normalizeMotion at h
  split at h
  · rename_i v w g e
    dsimp only at h
    split at h
    · cases h
    split at h
    · cases h
    split at h
    · cases h
    split at h
    · cases h
    split at h
    · cases h
    split at h
    · cases h
    rename_i hepoch hslow hpast hrecent hg he
    rw [not_or, not_lt, not_lt] at hslow hpast hrecent
    exact ⟨v, w, g, e, rfl, rfl, rfl, rfl, ⟨hslow.1, hslow.2, hpast, hrecent, not_not.mp hg,
      not_lt.mp hepoch, not_not.mp he⟩, (Option.some.inj h).symm⟩
  · cases h

variable {coercions : Coercions}

theorem validate_number {lower upper value : ℚ} (hlower : lower ≤ value) (hupper : value ≤ upper) :
    Shape.validate coercions (.number true (some lower) (some upper)) (.float (.finite value)) =
      some (.float (.finite value)) := by
  simp [Shape.validate, Shape.peel, Shape.validateScalar, Shape.boundedNumber, Shape.inBounds,
    PyFloat.isFinite, PyFloat.le, hlower, hupper]

theorem validate_whole {upper value : Int} (h : 0 ≤ value ∧ value ≤ upper) :
    Shape.validate coercions (.whole true (some 0) (some upper)) (.int value) =
      some (.int value) := by
  simp [Shape.validate, Shape.peel, Shape.validateScalar, Shape.boundedWhole, h]

theorem validateEntries_cons {fields : List Hub.Field} {name : String} {shape : Shape}
    {value : Json} {entries rest : List (String × Json)}
    (hshape : Shape.fieldShape fields name = some shape)
    (hvalue : Shape.validate coercions shape value = some value)
    (hrest : Shape.validateEntries coercions true fields entries = some rest) :
    Shape.validateEntries coercions true fields ((name, value) :: entries) =
      some ((name, value) :: rest) := by
  simp only [Shape.validateEntries, hshape, hvalue, hrest]

/-- A moderate motion is accepted by the server, and taken as it is. -/
theorem Moderate.decode {v w : ℚ} {g e : Int} {epoch : String}
    (h : Moderate v w sampleAge receiptAge g epoch e) (robotId timestamp : String)
    (sequence : Int) :
    Hub.decode coercions ⟨"telemetry.motion", robotId, sequence, timestamp,
        motionFields v w sampleAge receiptAge g epoch e⟩ =
      some (.motion, .obj (motionFields v w sampleAge receiptAge g epoch e)) := by
  have hkind : Hub.MessageType.ofWire "telemetry.motion" = some .motion := by decide
  have hlinear : -5 ≤ v ∧ v ≤ 5 := abs_le.mp h.linear
  have hangular : -10 ≤ w ∧ w ≤ 10 := abs_le.mp h.angular
  have hv : Shape.validate coercions (.number true (some (-5)) (some 5))
      (.float (.finite (round3 v))) = some (.float (.finite (round3 v))) :=
    validate_number (by simpa using le_round3 (b := -5) (by simpa using hlinear.1))
      (by simpa using round3_le (b := 5) (by simpa using hlinear.2))
  have hw : Shape.validate coercions (.number true (some (-10)) (some 10))
      (.float (.finite (round3 w))) = some (.float (.finite (round3 w))) :=
    validate_number (by simpa using le_round3 (b := -10) (by simpa using hangular.1))
      (by simpa using round3_le (b := 10) (by simpa using hangular.2))
  have hage : ∀ age : ℚ, 0 ≤ age → age ≤ 86400 →
      Shape.validate coercions (.number true (some 0) (some 86400))
        (.float (.finite (round3 age))) = some (.float (.finite (round3 age))) := by
    intro age hpast hrecent
    exact validate_number (by simpa using le_round3 (b := 0) (by simpa using hpast))
      (by simpa using round3_le (b := 86400) (by simpa using hrecent))
  have hshort : Shape.validate coercions (.chars (some 128)) (.str epoch) = some (.str epoch) := by
    have hlength : epoch.length ≤ 128 := h.short
    simp [Shape.validate, Shape.peel, Shape.validateScalar, hlength]
  have hentries : Shape.validateEntries coercions true Hub.motionData
      (motionFields v w sampleAge receiptAge g epoch e) =
        some (motionFields v w sampleAge receiptAge g epoch e) :=
    validateEntries_cons rfl hv (validateEntries_cons rfl hw (validateEntries_cons rfl rfl
      (validateEntries_cons rfl (hage _ h.past.1 h.recent.1)
        (validateEntries_cons rfl (hage _ h.past.2 h.recent.2)
          (validateEntries_cons rfl (validate_whole h.session)
            (validateEntries_cons rfl hshort
              (validateEntries_cons rfl (validate_whole h.epoch) rfl)))))))
  rw [Hub.decode, hkind, Option.bind_some, Hub.MessageType.model, Shape.validate]
  simp only [Shape.peel, hentries, Option.bind_some]
  rfl

end

/-! ### How often -/

/-- The gates of the node: four throttles, and the retries of the dock's pose. -/
inductive Gate where
  | pose
  | motion
  | scan
  | path
  | seed

namespace Gate

/-- The frames that pass the gate. -/
def passes : Gate → Frame → Bool
  | pose, .pose .. => true
  | motion, .motion _ => true
  | scan, .lidar .. => true
  | path, .path .. => true
  | seed, .seedDock => true
  | _, _ => false

def interval (config : Config) : Gate → ℚ
  | pose => config.poseInterval
  | motion => config.motionInterval
  | scan => config.scanInterval
  | path => config.pathInterval
  | seed => config.autoDockPoseRetryS

/-- When the gate opened last. -/
def last (node : Node) : Gate → ℚ
  | pose => node.poseLast
  | motion => node.motionLast
  | scan => node.scanLast
  | path => node.pathLast
  | seed => node.lastDockPoseAttempt

/-- The clock that the gate goes by. -/
def time (clock : Clock) : Gate → ℚ
  | seed => clock.seconds
  | _ => clock.mono

variable {gate : Gate} {config : Config} {clock : Clock} {node : Node}

/-- The gate stays shut, and nothing passes. -/
def Shut (gate : Gate) (node : Node) (result : Node × List Frame) : Prop :=
  gate.last result.1 = gate.last node ∧ result.2.any gate.passes = false

/-- The gate stays shut, or its interval is over and it opens. -/
def Minds (gate : Gate) (config : Config) (clock : Clock) (node : Node)
    (result : Node × List Frame) : Prop :=
  gate.Shut node result ∨
    (gate.interval config ≤ gate.time clock - gate.last node ∧
      gate.last result.1 = gate.time clock)

theorem Shut.append {first second : Node × List Frame} (h : gate.Shut node first)
    (h' : gate.Shut first.1 second) : gate.Shut node (second.1, first.2 ++ second.2) :=
  ⟨h'.1.trans h.1, by rw [List.any_append, h.2, h'.2, Bool.or_false]⟩

theorem Minds.append {first second : Node × List Frame} (h : gate.Minds config clock node first)
    (h' : gate.Shut first.1 second) :
    gate.Minds config clock node (second.1, first.2 ++ second.2) := by
  rcases h with h | ⟨hopen, hlast⟩
  · exact Or.inl (h.append h')
  · exact Or.inr ⟨hopen, h'.1.trans hlast⟩

theorem Shut.append_minds {first second : Node × List Frame} (h : gate.Shut node first)
    (h' : gate.Minds config clock first.1 second) :
    gate.Minds config clock node (second.1, first.2 ++ second.2) := by
  rcases h' with h' | ⟨hopen, hlast⟩
  · exact Or.inl (h.append h')
  · exact Or.inr ⟨h.1 ▸ hopen, hlast⟩

theorem minds_sendPose : pose.Minds config clock node (node.maybeSendPose config clock) := by
  rcases node.maybeSendPose_cases config clock with heq | ⟨hopen, heq | ⟨_, _, -, -, heq⟩⟩
  · rw [heq]
    exact Or.inl ⟨rfl, rfl⟩
  · rw [heq]
    exact Or.inr ⟨hopen, rfl⟩
  · rw [heq]
    exact Or.inr ⟨hopen, rfl⟩

theorem shut_sendPose (hgate : gate ≠ pose) : gate.Shut node (node.maybeSendPose config clock) := by
  rcases node.maybeSendPose_cases config clock with heq | ⟨-, heq | ⟨_, _, -, -, heq⟩⟩ <;>
    rw [heq] <;> cases gate <;> first | exact ⟨rfl, rfl⟩ | exact absurd rfl hgate

theorem minds_sendMotion : motion.Minds config clock node (node.maybeSendMotion config clock) := by
  rcases node.maybeSendMotion_cases config clock with heq | ⟨hopen, heq | ⟨_, -, heq⟩⟩
  · rw [heq]
    exact Or.inl ⟨rfl, rfl⟩
  · rw [heq]
    exact Or.inr ⟨hopen, rfl⟩
  · rw [heq]
    exact Or.inr ⟨hopen, rfl⟩

theorem shut_sendMotion (hgate : gate ≠ motion) :
    gate.Shut node (node.maybeSendMotion config clock) := by
  rcases node.maybeSendMotion_cases config clock with heq | ⟨-, heq | ⟨_, -, heq⟩⟩ <;>
    rw [heq] <;> cases gate <;> first | exact ⟨rfl, rfl⟩ | exact absurd rfl hgate

/-- What passes a gate, of all that a callback sends. -/
theorem minds_handle (gate : Gate) (config : Config) (clock : Clock) (node : Node)
    (callback : Callback) : gate.Minds config clock node (node.handle config clock callback) := by
  cases callback with
  | odom message =>
    rw [Node.handle, Node.onOdom]
    cases gate with
    | pose => exact minds_sendPose.append (shut_sendMotion (by simp))
    | motion => exact (@shut_sendPose motion _ _ _ (by simp)).append_minds minds_sendMotion
    | _ => exact Or.inl ((shut_sendPose (by simp)).append (shut_sendMotion (by simp)))
  | amcl message =>
    rw [Node.handle, Node.onAmcl]
    cases gate with
    | pose => exact minds_sendPose
    | _ => exact Or.inl (shut_sendPose (by simp))
  | scan stampNs =>
    rw [Node.handle, Node.onScan]
    split
    · rename_i hready
      cases gate with
      | scan => exact Or.inr ⟨of_decide_eq_true hready, rfl⟩
      | _ => exact Or.inl ⟨rfl, by split <;> rfl⟩
    · exact Or.inl ⟨rfl, rfl⟩
  | plan stampNs points =>
    rw [Node.handle, Node.onPlan]
    split
    · exact Or.inl ⟨rfl, rfl⟩
    split
    · rename_i hready
      dsimp only
      cases gate with
      | path =>
        split <;> exact Or.inr ⟨of_decide_eq_true hready, rfl⟩
      | _ => split <;> exact Or.inl ⟨rfl, rfl⟩
    · exact Or.inl ⟨rfl, rfl⟩
  | baseState report =>
    obtain ⟨age, heq⟩ := node.onBaseState_eq config clock report
    rw [Node.handle, heq]
    rcases (node.absorb clock report).maybeSeedDockPose_cases config clock
      (node.settledState clock report) with hseed | ⟨-, -, -, -, hretry, hseed⟩
    · rw [hseed]
      exact Or.inl ⟨by cases gate <;> rfl, by cases gate <;> rfl⟩
    · rw [hseed]
      cases gate with
      | seed => exact Or.inr ⟨hretry, rfl⟩
      | _ => exact Or.inl ⟨rfl, rfl⟩

/-- The times at which something passed. -/
def passages (gate : Gate) (config : Config) (events : Events) : List ℚ :=
  ((bridge config).trace (start config) events).flatMap fun segment =>
    if segment.2.any gate.passes then [gate.time segment.1.1] else []

/-- What passes a gate passes at least its interval apart. -/
theorem paced_passages (hinterval : 0 ≤ gate.interval config) (events : Events) :
    Paced (gate.interval config) (gate.last (after config events))
      (gate.passages config events) := by
  induction events using List.reverseRecOn with
  | nil => exact paced_nil _ _
  | append_singleton events event ih =>
    obtain ⟨clock, callback⟩ := event
    have hafter : after config (events ++ [(clock, callback)]) =
        ((after config events).handle config clock callback).1 := by
      rw [after, Machine.run_append]
      rfl
    have hpassages : gate.passages config (events ++ [(clock, callback)]) =
        gate.passages config events ++
          if ((after config events).handle config clock callback).2.any gate.passes then
            [gate.time clock]
          else [] := by
      simp only [passages, Machine.trace_append, List.flatMap_append, Machine.trace_cons,
        Machine.trace_nil, List.flatMap_cons, List.flatMap_nil, List.append_nil]
      rfl
    rw [hafter, hpassages]
    rcases minds_handle gate config clock (after config events) callback with
      ⟨hlast, hnone⟩ | ⟨hopen, hlast⟩
    · rw [hlast, if_neg (by simp [hnone]), List.append_nil]
      exact ih
    · rw [hlast]
      split
      · exact ih.pass hopen
      · rw [List.append_nil]
        exact ih.open hinterval hopen

end Gate

/-! ### What a frame vouches for -/

/-- The latest base state names a map, and a stamp is not before its activation. -/
structure OnMap (events : Events) (stampNs : Int) (context : MapContext) : Prop where
  current : context = mapOf events
  named : context.1.isSome = true ∧ context.2.isSome = true
  activated : ∃ reportClock report, latestReport events = some (reportClock, report) ∧
    0 < report.payload.mapActivatedStampNs ∧ report.payload.mapActivatedStampNs ≤ stampNs

/-- A fix that counts: recent, tight, and of the localization epoch of the latest base
    state, which is recent too. -/
structure Localized (config : Config) (events : Events) (clock : Clock) (amcl : AmclPose)
    (age : ℚ) : Prop where
  recent : age ≤ config.localizationMaxAgeS
  tight : amclLocalizationUsable config.covarianceWarn amcl = true
  ready : ∃ reportClock report, latestReport events = some (reportClock, report) ∧
    localizationEpochReady report.payload amcl.stampNs (clock.seconds - reportClock.seconds) = true

/-- A motion is the odometry message that has just come in, bound to the origin of the latest
    base state, and the server accepts it. -/
structure BoundMotion (config : Config) (events : Events) (clock : Clock) (callback : Callback)
    (payload : List (String × Json)) : Prop where
  bound : ∃ message reportClock report, callback = .odom message ∧
    latestReport events = some (reportClock, report) ∧ report.origin.valid = true ∧
    (0 ≤ clock.mono - reportClock.mono ∧ clock.mono - reportClock.mono ≤ 1 / 2) ∧
    ∃ age : ℚ, age = ((clock.ros - message.stampNs : Int) : ℚ) / 1000000000 ∧
      (0 ≤ age ∧ age ≤ config.motionMaxAgeS) ∧
      normalizeMotion message.linear message.angular report.origin.sessionGeneration
        report.origin.odomEpoch report.origin.odomEpochGeneration age 0 = some payload
  accepted (coercions : Coercions) (robotId timestamp : String) (sequence : Int) :
    Hub.decode coercions ⟨"telemetry.motion", robotId, sequence, timestamp, payload⟩ =
      some (.motion, .obj payload)

/-- A pose is made of an AMCL pose on the map that has counted since it came, and of odometry
    of the epoch that has counted since it came; it is localized when the fix counts. -/
structure BoundPose (config : Config) (events : Events) (clock : Clock) (amcl : AmclPose)
    (twist : Option Odometry) (age : ℚ) (context : MapContext) (localized : Bool) : Prop where
  onMap : OnMap events amcl.stampNs context
  fix : ∃ arrival : Clock, Stands mapOf (.amcl amcl) arrival events ∧
    age = clock.seconds - arrival.seconds
  twist (message : Odometry) : twist = some message →
    ∃ arrival, Stands epochOf (.odom message) arrival events
  localized : localized = true ↔ Localized config events clock amcl age

section

variable {config : Config} {events : Events} {node : Node} {clock : Clock}

theorem Knows.onMap (h : Knows config events node) {stampNs : Int}
    (hmap : node.onActiveMap stampNs = true) : OnMap events stampNs node.mapContext := by
  rw [Node.onActiveMap, h.base, latestSeen] at hmap
  rw [h.mapContext]
  cases hreport : latestReport events with
  | none =>
    rw [hreport] at hmap
    cases hmap
  | some report =>
    obtain ⟨reportClock, report⟩ := report
    simp only [hreport, Option.map_some, Bool.and_eq_true, decide_eq_true_eq] at hmap
    have hcontext : mapOf events = (report.payload.mapId, report.payload.mapRevision) := by
      rw [mapOf, hreport]
    refine ⟨rfl, ?_, reportClock, report, hreport, hmap.2, hmap.1.2⟩
    rw [hcontext]
    exact hmap.1.1

theorem Knows.localized_iff (h : Knows config events node) {amcl : AmclPose} {arrival : ℚ}
    (hamcl : node.amcl = some (amcl, arrival)) :
    node.localizationIsUsable config clock = true ↔
      Localized config events clock amcl (clock.seconds - arrival) := by
  rw [Node.localizationIsUsable, hamcl, h.base, latestSeen]
  cases hreport : latestReport events with
  | none =>
    constructor
    · intro hfalse
      cases hfalse
    · rintro ⟨-, -, reportClock, report, hreport', -⟩
      rw [hreport] at hreport'
      cases hreport'
  | some report =>
    obtain ⟨reportClock, report⟩ := report
    simp only [Option.map_some, Bool.and_eq_true, decide_eq_true_eq]
    constructor
    · rintro ⟨⟨hready, hrecent⟩, htight⟩
      exact ⟨hrecent, htight, reportClock, report, hreport, hready⟩
    · rintro ⟨hrecent, htight, reportClock', report', hreport', hready⟩
      rw [hreport] at hreport'
      cases hreport'
      exact ⟨⟨hready, hrecent⟩, htight⟩

theorem Knows.boundPose (h : Knows config events node) {amcl : AmclPose} {arrival : ℚ}
    (hamcl : node.amcl = some (amcl, arrival)) (hmap : node.onActiveMap amcl.stampNs = true) :
    BoundPose config events clock amcl (node.odom.map Prod.fst) (clock.seconds - arrival)
      node.mapContext (node.localizationIsUsable config clock) where
  onMap := h.onMap hmap
  fix := by
    obtain ⟨arrivalClock, hclock, hstands⟩ := h.amcl hamcl
    exact ⟨arrivalClock, hstands, by rw [hclock]⟩
  twist message hmessage := by
    obtain ⟨⟨message', mono⟩, hodom, rfl⟩ := Option.map_eq_some_iff.mp hmessage
    obtain ⟨arrivalClock, -, hstands⟩ := h.odom hodom
    exact ⟨arrivalClock, hstands⟩
  localized := h.localized_iff hamcl

/-- The motion that an odometry message makes the node send. -/
theorem Knows.boundMotion (h : Knows config events node) {message : Odometry}
    {payload : List (String × Json)} (hodom : node.odom = some (message, clock.mono))
    (hpayload : node.motionPayload config clock = some payload) :
    BoundMotion config events clock (.odom message) payload := by
  have horigin := h.origin
  have hbase := h.base
  rw [epochOf] at horigin
  rw [latestSeen] at hbase
  cases hreport : latestReport events with
  | none =>
    rw [hreport, Option.map_none] at horigin
    simp [Node.motionPayload, horigin] at hpayload
  | some report =>
    obtain ⟨reportClock, report⟩ := report
    rw [hreport, Option.map_some] at horigin hbase
    simp only [Node.motionPayload, horigin, hbase, hodom] at hpayload
    split at hpayload
    · cases hpayload
    split at hpayload
    · cases hpayload
    rename_i hfresh hage
    rw [not_or, not_not] at hfresh
    rw [sub_self] at hpayload
    refine ⟨⟨message, reportClock, report, rfl, hreport, by simpa using hfresh.1, hfresh.2, _, rfl,
      not_not.mp hage, hpayload⟩, ?_⟩
    obtain ⟨v, w, g, e, -, -, -, -, hmoderate, rfl⟩ := normalizeMotion_eq_some hpayload
    intro coercions robotId timestamp sequence
    exact hmoderate.decode robotId timestamp sequence

end

/-! ### Runs -/

/-- What a frame says of the messages up to the one that it answers. -/
def Vouches (config : Config) (events : Events) (clock : Clock) (callback : Callback) :
    Frame → Prop
  | .pose amcl twist age context localized =>
    BoundPose config events clock amcl twist age context localized
  | .motion payload => BoundMotion config events clock callback payload
  | .lidar stampNs context => callback = .scan stampNs ∧ OnMap events stampNs context
  | .path points context => config.commands = false ∧
    ∃ stampNs, callback = .plan stampNs points ∧ OnMap events stampNs context
  | .baseState state _ => ∃ report seen, callback = .baseState report ∧
    latestSeen config events = some seen ∧ state = seen.state
  | .seedDock => (config.commands = true ∧ config.autoDockPoseOnCharge = true) ∧
    ∃ seen, latestSeen config events = some seen ∧ seen.state.chargeState ∈ chargingStates ∧
      (after config events).localizationIsUsable config clock = false

/-- What holds of a run of the node, whatever comes in and in whatever order. -/
structure Vouched (config : Config) (events : Events) : Prop where
  vouches (clock : Clock) (callback : Callback) (frame : Frame) :
    frame ∈ ((after config events).handle config clock callback).2 →
      Vouches config (events ++ [(clock, callback)]) clock callback frame
  paced (gate : Gate) : 0 ≤ gate.interval config →
    Paced (gate.interval config) (gate.last (after config events)) (gate.passages config events)

section

variable {config : Config} {events : Events} {node : Node} {clock : Clock}
variable {callback : Callback} {frame : Frame}

theorem after_concat :
    after config (events ++ [(clock, callback)]) =
      ((after config events).handle config clock callback).1 := by
  rw [after, Machine.run_append]
  rfl

theorem Knows.vouches_pose (h : Knows config events node)
    (hframe : frame ∈ (node.maybeSendPose config clock).2) :
    Vouches config events clock callback frame := by
  rcases node.maybeSendPose_cases config clock with heq | ⟨-, heq | ⟨_, _, hamcl, hmap, heq⟩⟩
  · rw [heq] at hframe
    cases hframe
  · rw [heq] at hframe
    cases hframe
  · rw [heq, List.mem_singleton] at hframe
    rw [hframe]
    exact h.boundPose hamcl hmap

theorem Knows.vouches_motion (h : Knows config events node) {message : Odometry}
    (hodom : node.odom = some (message, clock.mono))
    (hframe : frame ∈ (node.maybeSendMotion config clock).2) :
    Vouches config events clock (.odom message) frame := by
  rcases node.maybeSendMotion_cases config clock with heq | ⟨-, heq | ⟨_, hpayload, heq⟩⟩
  · rw [heq] at hframe
    cases hframe
  · rw [heq] at hframe
    cases hframe
  · rw [heq, List.mem_singleton] at hframe
    rw [hframe]
    exact h.boundMotion hodom hpayload

/-- A pose does not move the odometry. -/
theorem odom_sendPose : (node.maybeSendPose config clock).1.odom = node.odom := by
  rcases node.maybeSendPose_cases config clock with heq | ⟨-, heq | ⟨_, _, -, -, heq⟩⟩ <;> rw [heq]

/-- What each callback sends. -/
theorem vouches_handle (hframe : frame ∈ ((after config events).handle config clock callback).2) :
    Vouches config (events ++ [(clock, callback)]) clock callback frame := by
  have h := knows_after config events
  have hafter := knows_after config (events ++ [(clock, callback)])
  rw [after_concat] at hafter
  cases callback with
  | odom message =>
    have htaken := @Knows.takeOdom _ _ _ clock h message
    rw [Node.handle, Node.onOdom] at hframe
    rcases List.mem_append.mp hframe with hframe | hframe
    · exact htaken.vouches_pose hframe
    · exact htaken.sendPose.vouches_motion odom_sendPose hframe
  | amcl message => exact (h.takeAmcl message).vouches_pose hframe
  | scan stampNs =>
    rw [Node.handle, Node.onScan] at hframe hafter
    split at hframe
    · split at hframe
      · rename_i hready hmap
        rw [if_pos hready] at hafter
        rw [List.mem_singleton.mp hframe]
        exact ⟨rfl, hafter.onMap hmap⟩
      · cases hframe
    · cases hframe
  | plan stampNs points =>
    rw [Node.handle, Node.onPlan] at hframe hafter
    split at hframe
    · cases hframe
    split at hframe
    · rename_i hcommands hready
      dsimp only at hframe
      split at hframe
      · rename_i hsend
        rw [Bool.and_eq_true] at hsend
        rw [if_neg hcommands, if_pos hready] at hafter
        dsimp only at hafter
        rw [if_pos (by rw [Bool.and_eq_true]; exact hsend)] at hafter
        rw [List.mem_singleton.mp hframe]
        exact ⟨by simpa using hcommands, stampNs, rfl, hafter.onMap hsend.1⟩
      · cases hframe
    · cases hframe
  | baseState report =>
    obtain ⟨age, heq⟩ := (after config events).onBaseState_eq config clock report
    have habsorbed := @Knows.absorb _ _ _ clock h report
    rw [Node.handle, heq] at hframe
    rcases List.mem_cons.mp hframe with rfl | hframe
    · exact ⟨report, _, rfl, habsorbed.base.symm, rfl⟩
    · rcases ((after config events).absorb clock report).maybeSeedDockPose_cases config clock
        ((after config events).settledState clock report) with
        hseed | ⟨hcommands, hauto, hcharging, hlost, -, hseed⟩
      · rw [hseed] at hframe
        cases hframe
      · have hrun : after config (events ++ [(clock, .baseState report)]) =
            { (after config events).absorb clock report with
              lastDockPoseAttempt := clock.seconds } := by
          rw [after_concat, Node.handle, heq]
          dsimp only
          rw [hseed]
        rw [hseed, List.mem_singleton] at hframe
        rw [hframe]
        refine ⟨⟨hcommands, hauto⟩, _, habsorbed.base.symm, hcharging, ?_⟩
        rw [hrun]
        exact hlost

end

/-- **The bridge's telemetry.**  Every frame vouches for what it is made of, and each gate
    keeps its frames an interval apart. -/
theorem vouched_run (config : Config) (events : Events) : Vouched config events where
  vouches _ _ _ hframe := vouches_handle hframe
  paced _ hinterval := Gate.paced_passages hinterval events

end PatrolBot.BridgeNode
