import PatrolBot.GateAgreement

/-!
# The dashboard's mirror of the gates

`frontend/src/lib/dockGates.ts`: the browser's copy of the server's gates, which
greys a control out and says why.  It is presentation only, but the sentence is to
be the one the server would answer with.  The copy is in another language: a number
is a double, and its white space is not Python's.
-/

namespace PatrolBot.Dashboard

/-! ### JavaScript values -/

/-- A double that is a whole number, or an infinity. -/
inductive WholeNumber where
  | finite (value : Int)
  | infinite (negative : Bool)
deriving DecidableEq

/-- The number an integer of a JSON text is read as. -/
def wholeOf (n : Int) : WholeNumber :=
  match floatOfInt n with
  | some q => .finite q.num
  | none => .infinite (decide (n < 0))

/-- The digits before so many zeros that are read as the number, the nearest if
    there are two. -/
def digitsBefore (magnitude zeros : Nat) : Option Nat :=
  let low := magnitude / 10 ^ zeros
  let nearest :=
    if 2 * (magnitude % 10 ^ zeros) ≤ 10 ^ zeros then [low, low + 1] else [low + 1, low]
  nearest.find? fun digits => floatOfInt (digits * 10 ^ zeros : Nat) == some (magnitude : ℚ)

/-- The shortest digits that are read as the number, with the zeros behind them. -/
def shortestDigits (magnitude : Nat) : Nat → Nat × Nat
  | 0 => (magnitude, 0)
  | zeros + 1 => match digitsBefore magnitude (zeros + 1) with
    | some digits => (digits, zeros + 1)
    | none => shortestDigits magnitude zeros

/-- The text of a whole number above `2^53`. -/
def magnitudeText (magnitude : Nat) : String :=
  let (digits, zeros) := shortestDigits magnitude (toString magnitude).length
  let shown := toString digits
  let places := shown.length + zeros
  if places ≤ 21 then shown ++ String.ofList (List.replicate zeros '0')
  else
    let fraction := String.ofList (shown.toList.drop 1)
    String.ofList (shown.toList.take 1) ++ (if fraction = "" then "" else "." ++ fraction) ++
      "e+" ++ toString (places - 1)

/-- `${value}`; up to `2^53` every digit of a whole number counts. -/
def numberText : WholeNumber → String
  | .infinite negative => if negative then "-Infinity" else "Infinity"
  | .finite value =>
    if value.natAbs ≤ 2 ^ 53 then toString value
    else (if value < 0 then "-" else "") ++ magnitudeText value.natAbs

/-- ASCII white space of JavaScript, without the separators of records. -/
def isTrimmed (c : Char) : Bool := c == ' ' || (9 ≤ c.toNat && c.toNat ≤ 13)

/-- `text.trim()`, for ASCII white space. -/
def trim (text : String) : String :=
  String.ofList ((text.toList.dropWhile isTrimmed).reverse.dropWhile isTrimmed).reverse

/-! ### Facts -/

/-- `StateFacts` of the dashboard. -/
structure StateFacts where
  online : Bool
  linkConnected : Bool
  telemetryAge : PyFloat
  hardwareStateValid : Bool
  chargeState : String
  motorsEnabled : Bool
  estopPressed : Bool
  faultFlags : WholeNumber
  bumpersRear : Bool
  bumpersValid : Option Bool
  dockState : Option String
  dockStateValid : Option Bool
  undockActive : Bool
  undockProfileCommissioned : Option Bool
  localized : Bool
  stationary : Bool
  capabilities : List String
  navigating : Bool

/-- `factsFrom`: with no telemetry every gate that asks for it refuses. -/
def factsFrom (connectionState : String) (base : Option Server.BaseStateData)
    (pose : Option Server.PoseData) (capabilities : List String) (navigating : Bool) :
    StateFacts where
  online := connectionState == "online"
  linkConnected := base.elim false Server.BaseStateData.linkConnected
  telemetryAge := base.elim (.finite 999) Server.BaseStateData.telemetryAge
  hardwareStateValid := base.elim false Server.BaseStateData.hardwareStateValid
  chargeState := base.elim "unknown" Server.BaseStateData.chargeState
  motorsEnabled := base.elim false Server.BaseStateData.motorsEnabled
  estopPressed := base.elim false Server.BaseStateData.estopPressed
  faultFlags := base.elim (.finite 0) fun base => wholeOf base.faultFlags
  bumpersRear := base.elim false Server.BaseStateData.bumpersRear
  bumpersValid := base.bind Server.BaseStateData.bumpersValid
  dockState := base.bind Server.BaseStateData.dockState
  dockStateValid := base.bind Server.BaseStateData.dockStateValid
  undockActive := base.elim false Server.BaseStateData.undockActive
  undockProfileCommissioned := base.bind Server.BaseStateData.undockProfileCommissioned
  localized := pose.elim false Server.PoseData.localized
  stationary := pose.any fun pose => decide (|pose.linearVelocity| ≤ Server.stationaryLinear) &&
    decide (|pose.angularVelocity| ≤ Server.stationaryAngular)
  capabilities := capabilities
  navigating := navigating

section

variable (facts : StateFacts)

/-- `(facts.dockState ?? "").trim().toUpperCase()`. -/
def observed : String := upper (trim (facts.dockState.getD ""))

/-- `isCharging`. -/
def isCharging : Bool :=
  if facts.dockStateValid = some true ∧ observed facts ∈ ["CLEAR_CONFIRMED", "DEPARTING"] then false
  else chargingStates.contains (lower (trim facts.chargeState))

/-- `isOnDock`. -/
def isOnDock : Bool :=
  if facts.dockStateValid = some true then Server.dockObserverDocked.contains (observed facts)
  else onDockStates.contains (lower (trim facts.chargeState))

/-- `telemetryFresh`. -/
def telemetryFresh : Bool :=
  facts.linkConnected && facts.telemetryAge.le (.finite maxTelemetryAge)

/-! ### The gates -/

/-- The sentence of a fault, around the text of its code. -/
def faultSentence (code : String) : String :=
  "The drive base is reporting a fault (code " ++ code ++ "). Clear it on the robot first."

/-- `hardwareReason`. -/
def hardwareReason : Option String :=
  if facts.online = false then some "The robot is not connected right now."
  else if telemetryFresh facts = false then
    some ("The robot's hardware readings are stale — wait for fresh data before commanding " ++
      "the robot.")
  else if facts.hardwareStateValid = false then
    some "The robot's drive base is not reporting valid data."
  else if facts.faultFlags ≠ .finite 0 then some (faultSentence (numberText facts.faultFlags))
  else none

/-- `stationaryReason`. -/
def stationaryReason : Option String :=
  if facts.stationary then none else some "The robot is still moving — wait until it has stopped."

/-- `chargeReleaseReason`. -/
def chargeReleaseReason : Option String :=
  match hardwareReason facts with
  | some reason => some reason
  | none =>
    if isCharging facts = false then
      some "The robot is not on charge, so there is nothing to release."
    else stationaryReason facts

/-- A control that asks for a connection and its own capability only. -/
def capabilityReason (capability absent : String) : Option String :=
  if facts.online = false then some "The robot is not connected right now."
  else if capability ∉ facts.capabilities then some absent
  else none

/-- `motorEnableReason`. -/
def motorEnableReason : Option String :=
  capabilityReason facts "motor_enable" "Motor enable is not available on this robot."

/-- `motorDisableReason`. -/
def motorDisableReason : Option String :=
  capabilityReason facts "motor_disable"
    "Motor disable is not available on this robot. Update its bridge first."

/-- `undockReason`. -/
def undockReason : Option String :=
  match hardwareReason facts with
  | some reason => some reason
  | none =>
    if "undock" ∉ facts.capabilities then
      some "Undocking is not commissioned on this robot yet — back it off the dock by hand."
    else if facts.dockStateValid = some false then
      some ("The robot's dock observer is not reporting valid data. Check the robot before " ++
        "trying to undock.")
    else if facts.undockProfileCommissioned = some false then
      some "The robot's guarded undock profile has not been commissioned."
    else if facts.undockActive then some "The robot is already undocking."
    else if isOnDock facts = false then some "The robot is not on its dock."
    else if facts.estopPressed then
      some "The emergency stop is pressed. Release it on the robot first."
    else if facts.bumpersValid ≠ some true then
      some ("The robot cannot confirm its bumper readings, so it cannot tell whether anything " ++
        "is behind it. Check the robot before undocking.")
    else if facts.bumpersRear then
      some ("The rear bumper is pressed — clear whatever is behind the robot before backing " ++
        "it off the dock.")
    else if facts.navigating then
      some ("The robot is still driving to a destination. Stop it before backing it off the " ++
        "dock.")
    else stationaryReason facts

/-- `softwareResetReason`. -/
def softwareResetReason : Option String :=
  capabilityReason facts "software_reset" "Software reset is not available on this robot."

end

/-- `GATES` of the dashboard. -/
def gateOf : Server.Command → Option (StateFacts → Option String)
  | .chargeRelease => some chargeReleaseReason
  | .motorEnable => some motorEnableReason
  | .motorDisable => some motorDisableReason
  | .undock => some undockReason
  | .softwareReset => some softwareResetReason
  | _ => none

/-- `rejectionReason`. -/
def rejectionReason (command : Server.Command) (facts : StateFacts) : Option String :=
  (gateOf command).bind fun gate => gate facts

/-! ### The two copies -/

/-- The server's facts, as the dashboard has them. -/
def mirror (facts : Server.StateFacts) : StateFacts where
  online := facts.online
  linkConnected := facts.linkConnected
  telemetryAge := facts.telemetryAge
  hardwareStateValid := facts.hardwareStateValid
  chargeState := facts.chargeState
  motorsEnabled := facts.motorsEnabled
  estopPressed := facts.estopPressed
  faultFlags := wholeOf facts.faultFlags
  bumpersRear := facts.bumpersRear
  bumpersValid := facts.bumpersValid
  dockState := facts.dockState
  dockStateValid := facts.dockStateValid
  undockActive := facts.undockActive
  undockProfileCommissioned := facts.undockProfileCommissioned
  localized := facts.localized
  stationary := facts.stationary
  capabilities := facts.capabilities
  navigating := facts.navigating

@[simp] theorem mirror_dockStateValid (facts : Server.StateFacts) :
    (mirror facts).dockStateValid = facts.dockStateValid := rfl

/-- Both ends flatten the same telemetry into the same facts. -/
theorem mirror_factsFromState (connection : String) (base : Option Server.BaseStateData)
    (pose : Option Server.PoseData) (capabilities : List String) (navigating : Bool)
    (baseStateAge poseAge : Option PyFloat) (allowUnlocalized : Bool) :
    mirror (Server.factsFromState connection base pose capabilities navigating baseStateAge poseAge
      allowUnlocalized) = factsFrom connection base pose capabilities navigating := by
  have hzero : wholeOf 0 = .finite 0 := by decide +kernel
  cases base <;> cases pose <;> simp [mirror, Server.factsFromState, factsFrom, hzero]

/-- `float(n)` is nought for nought only. -/
theorem floatOfInt_ne_zero {n : Int} (hn : n ≠ 0) {q : ℚ} (h : floatOfInt n = some q) : q ≠ 0 := by
  unfold floatOfInt at h
  split at h
  · obtain rfl := Option.some.inj h
    exact_mod_cast hn
  · split at h
    · obtain rfl := Option.some.inj h
      rename_i hlarge _
      have hpos : n.natAbs ≠ 0 := Int.natAbs_ne_zero.mpr hn
      have hunit : 2 ^ (n.natAbs.log2 - 52) ≤ n.natAbs :=
        le_trans (Nat.pow_le_pow_right (by decide) (Nat.sub_le _ _)) (Nat.log2_self_le hpos)
      have hlow : 0 < n.natAbs / 2 ^ (n.natAbs.log2 - 52) :=
        Nat.div_pos hunit (Nat.two_pow_pos _)
      have hsign : n.sign ≠ 0 := by simpa using hn
      have hrounded : ∀ c : Prop, [Decidable c] →
          (if c then n.natAbs / 2 ^ (n.natAbs.log2 - 52) + 1
            else n.natAbs / 2 ^ (n.natAbs.log2 - 52)) ≠ 0 := by
        intro c _
        split <;> omega
      have hproduct : ∀ rounded : Nat, rounded ≠ 0 →
          ((n.sign * (rounded * 2 ^ (n.natAbs.log2 - 52) : Nat) : Int) : ℚ) ≠ 0 := by
        intro rounded hne
        have hnat : rounded * 2 ^ (n.natAbs.log2 - 52) ≠ 0 :=
          Nat.mul_ne_zero hne (Nat.two_pow_pos _).ne'
        exact_mod_cast mul_ne_zero hsign (Int.natCast_ne_zero.mpr hnat)
      exact hproduct _ (hrounded _)
    · cases h

/-- A fault is no fault on neither side. -/
theorem wholeOf_eq_zero {n : Int} : wholeOf n = .finite 0 ↔ n = 0 := by
  constructor
  · intro h
    by_contra hn
    unfold wholeOf at h
    split at h
    · rename_i q hq
      exact floatOfInt_ne_zero hn hq (Rat.num_eq_zero.mp (WholeNumber.finite.inj h))
    · cases h
  · rintro rfl
    decide +kernel

theorem numberText_of_small {n : Int} (h : n.natAbs ≤ 2 ^ 53) :
    numberText (wholeOf n) = toString n := by
  rw [wholeOf, floatOfInt_of_small h]
  simp only [numberText, Rat.num_intCast]
  exact if_pos h

theorem faultSentence_inj {left right : String} (h : faultSentence left = faultSentence right) :
    left = right := by
  unfold faultSentence at h
  exact (String.append_right_inj _).mp ((String.append_left_inj _).mp h)

theorem faultReason_eq (flags : Int) : faultReason flags = faultSentence (toString flags) := rfl

/-- The facts the two copies are compared on. -/
structure Comparable (facts : Server.StateFacts) : Prop where
  lidar : Server.lidarReason facts = none
  base : facts.baseStateFresh = true
  pose : facts.poseFresh = true
  charge : facts.chargeState.toList.all fun c => decide (c.toNat < 128)
  dock : ∀ state, facts.dockState = some state → state.toList.all fun c => decide (c.toNat < 128)

/-- The copies read the strings and print the code alike, where they get so far. -/
def Alike (facts : Server.StateFacts) : Prop :=
  if facts.faultFlags = 0 then
    isCharging (mirror facts) = facts.charging ∧
      ("undock" ∈ facts.capabilities → facts.dockStateValid ≠ some false →
        facts.undockProfileCommissioned ≠ some false → facts.undockActive = false →
        isOnDock (mirror facts) = facts.onDock)
  else numberText (wholeOf facts.faultFlags) = toString facts.faultFlags

/-- The controls the dashboard has a gate for. -/
def mirrored : List Server.Command :=
  [.chargeRelease, .motorEnable, .motorDisable, .undock, .softwareReset]

section

variable {facts : Server.StateFacts}

theorem Comparable.online (h : Comparable facts) : facts.online = true ∧
    facts.linkConnected = true ∧ facts.hardwareStateValid = true ∧
      facts.telemetryAge.le (.finite maxTelemetryAge) = true := by
  have hlidar := h.lidar
  unfold Server.lidarReason at hlidar
  cases hage : facts.baseStateAge with
  | none => simp [hage] at hlidar
  | some receipt =>
    simp only [hage, Server.freshWith] at hlidar
    by_contra hbad
    rw [if_neg] at hlidar
    · cases hlidar
    · simp only [Bool.and_eq_true]
      rintro ⟨⟨⟨⟨⟨⟨⟨honline, hlink⟩, hvalid⟩, ⟨hfinite, -⟩, hsum⟩, -⟩, -⟩, hreceiptFinite⟩,
        hreceipt⟩
      exact hbad ⟨honline, hlink, hvalid, Server.le_of_add_le (by norm_num [maxTelemetryAge])
        hreceipt hsum hfinite hreceiptFinite⟩

/-- Only the code of a fault may tell the hardware clauses apart. -/
theorem hardwareReason_mirror (h : Comparable facts) :
    Server.hardwareReason facts =
        (if facts.faultFlags = 0 then none else some (faultSentence (toString facts.faultFlags))) ∧
      hardwareReason (mirror facts) = (if facts.faultFlags = 0 then none
        else some (faultSentence (numberText (wholeOf facts.faultFlags)))) := by
  obtain ⟨honline, hlink, hvalid, htelemetry⟩ := h.online
  constructor
  · simp only [Server.hardwareReason, Server.StateFacts.telemetryFresh, honline, h.base, hlink,
      hvalid, htelemetry, faultReason_eq]
    by_cases hfault : facts.faultFlags = 0 <;> simp [hfault]
  · simp only [hardwareReason, telemetryFresh, mirror, honline, hlink, hvalid, htelemetry, ne_eq,
      wholeOf_eq_zero]
    by_cases hfault : facts.faultFlags = 0 <;> simp [hfault]

theorem stationaryReason_mirror (h : Comparable facts) :
    stationaryReason (mirror facts) = Server.stationaryReason facts := by
  unfold stationaryReason Server.stationaryReason
  rw [h.pose]
  by_cases hstill : facts.stationary = true <;> simp [mirror, hstill]

/-! ### Clause by clause -/

/-- A clause the chains share. -/
theorem clause_congr {c d p : Prop} [Decidable c] [Decidable d] {reason : String}
    {left right : Option String} (hd : d ↔ c) (hp : ¬c ↔ p) :
    (if d then some reason else left) = (if c then some reason else right) ↔
      (p → left = right) := by
  rw [← hp]
  by_cases h : c
  · simp [h, hd.mpr h]
  · simp [h, mt hd.mp h]

/-- A clause in which alone they may differ. -/
theorem clause_eq {left right : Bool} {reason : String} {rest : Option String}
    (h : rest ≠ some reason) :
    (if left = false then some reason else rest) = (if right = false then some reason else rest) ↔
      left = right := by
  cases left <;> cases right <;> simp [h, h.symm]

theorem clause_ne {c : Prop} [Decidable c] {reason other : String} {rest : Option String}
    (hreason : reason ≠ other) (h : rest ≠ some other) :
    (if c then some reason else rest) ≠ some other := by
  split
  · simpa using hreason
  · exact h

/-- A refusal for want of a charge or of a dock says nothing of motion. -/
theorem stationaryReason_ne {reason : String} (hreason : reason ∈
    ["The robot is not on charge, so there is nothing to release.",
      "The robot is not on its dock."]) : Server.stationaryReason facts ≠ some reason := by
  unfold Server.stationaryReason
  simp only [List.mem_cons, List.not_mem_nil, or_false] at hreason
  rcases hreason with rfl | rfl
  · exact clause_ne (by decide) (clause_ne (by decide) (by simp))
  · exact clause_ne (by decide) (clause_ne (by decide) (by simp))

theorem chargeReleaseReason_mirror (h : Comparable facts) :
    chargeReleaseReason (mirror facts) = Server.chargeReleaseReason facts ↔
      if facts.faultFlags = 0 then isCharging (mirror facts) = facts.charging
      else numberText (wholeOf facts.faultFlags) = toString facts.faultFlags := by
  obtain ⟨hserver, hdashboard⟩ := hardwareReason_mirror h
  unfold chargeReleaseReason Server.chargeReleaseReason
  rw [hserver, hdashboard, stationaryReason_mirror h]
  by_cases hfault : facts.faultFlags = 0
  · simp only [if_pos hfault]
    exact clause_eq (stationaryReason_ne List.mem_cons_self)
  · simp only [if_neg hfault, Option.some.injEq]
    exact ⟨faultSentence_inj, congrArg faultSentence⟩

theorem undockReason_mirror (h : Comparable facts) :
    undockReason (mirror facts) = Server.undockReason facts ↔
      if facts.faultFlags = 0 then
        ("undock" ∈ facts.capabilities → facts.dockStateValid ≠ some false →
          facts.undockProfileCommissioned ≠ some false → facts.undockActive = false →
          isOnDock (mirror facts) = facts.onDock)
      else numberText (wholeOf facts.faultFlags) = toString facts.faultFlags := by
  obtain ⟨hserver, hdashboard⟩ := hardwareReason_mirror h
  unfold undockReason Server.undockReason
  rw [hserver, hdashboard, stationaryReason_mirror h]
  by_cases hfault : facts.faultFlags = 0
  · simp only [if_pos hfault]
    refine (clause_congr Iff.rfl not_not).trans (imp_congr_right fun _ => ?_)
    refine (clause_congr Iff.rfl Iff.rfl).trans (imp_congr_right fun _ => ?_)
    refine (clause_congr Iff.rfl Iff.rfl).trans (imp_congr_right fun _ => ?_)
    refine (clause_congr Iff.rfl (Bool.not_eq_true _).to_iff).trans (imp_congr_right fun _ => ?_)
    apply clause_eq
    -- The clauses behind the dock have sentences of their own.
    apply clause_ne (by decide)
    apply clause_ne (by decide)
    apply clause_ne (by decide)
    apply clause_ne (by decide)
    exact stationaryReason_ne (List.mem_cons_of_mem _ List.mem_cons_self)
  · simp only [if_neg hfault, Option.some.injEq]
    exact ⟨faultSentence_inj, congrArg faultSentence⟩

/-- Behind the LiDAR gate the server's answer is that of the gate itself. -/
theorem rejectionReason_server (h : Comparable facts) (command : Server.Command) :
    Server.rejectionReason command facts = (Server.gateOf command).bind fun gate => gate facts := by
  unfold Server.rejectionReason
  rw [h.lidar, ite_self]

end

/-- On facts that are fresh and pass the LiDAR gate, in ASCII, the dashboard gives the
    server's sentence for every control it has a gate for exactly if it reads the two
    state strings as the server does and prints the code of a fault with its digits. -/
theorem gates_mirror (facts : Server.StateFacts) (h : Comparable facts) :
    (∀ command ∈ mirrored,
      rejectionReason command (mirror facts) = Server.rejectionReason command facts) ↔
      Alike facts := by
  simp only [mirrored, List.forall_mem_cons, List.not_mem_nil, false_implies, implies_true,
    and_true, rejectionReason_server h]
  have hrelease := chargeReleaseReason_mirror h
  have hundock := undockReason_mirror h
  simp only [rejectionReason, gateOf, Server.gateOf, Option.bind_some, hrelease, hundock]
  have henable : motorEnableReason (mirror facts) = Server.motorEnableReason facts := rfl
  have hdisable : motorDisableReason (mirror facts) = Server.motorDisableReason facts := rfl
  have hreset : softwareResetReason (mirror facts) = Server.softwareResetReason facts := rfl
  simp only [henable, hdisable, hreset, true_and, and_true]
  unfold Alike
  by_cases hfault : facts.faultFlags = 0
  · simp only [if_pos hfault]
  · simp only [if_neg hfault, and_self]

/-- A text without the separators on which the two trims differ. -/
def PlainEnds (text : String) : Prop := ∀ c ∈ text.toList, isSpace c = isTrimmed c

instance (text : String) : Decidable (PlainEnds text) :=
  decidable_of_iff ((text.toList.all fun c => isSpace c == isTrimmed c) = true)
    (by simp [PlainEnds])

theorem trim_of_plainEnds {text : String} (h : PlainEnds text) : trim text = strip text := by
  have hdrop : ∀ characters : List Char, (∀ c ∈ characters, isSpace c = isTrimmed c) →
      characters.dropWhile isTrimmed = characters.dropWhile isSpace := by
    intro characters hcharacters
    induction characters with
    | nil => rfl
    | cons c characters ih =>
      obtain ⟨hc, hrest⟩ := List.forall_mem_cons.mp hcharacters
      rw [List.dropWhile_cons, List.dropWhile_cons, hc, ih hrest]
  have hback : ∀ c ∈ (text.toList.dropWhile isSpace).reverse, isSpace c = isTrimmed c := by
    intro c hc
    exact h c ((List.dropWhile_suffix _).mem (List.mem_reverse.mp hc))
  rw [trim, strip, hdrop _ h, hdrop _ hback]

/-- So with plain state strings and a code of at most `2^53` the copies agree. -/
theorem alike_of_plainEnds {facts : Server.StateFacts} (hcharge : PlainEnds facts.chargeState)
    (hdock : PlainEnds (facts.dockState.getD "")) (hcode : facts.faultFlags.natAbs ≤ 2 ^ 53) :
    Alike facts := by
  have hobserved : observed (mirror facts) = facts.observed :=
    congrArg upper (trim_of_plainEnds hdock)
  have hstate : trim (mirror facts).chargeState = strip facts.chargeState :=
    trim_of_plainEnds hcharge
  unfold Alike
  split
  · constructor
    · rw [isCharging, Server.StateFacts.charging, hobserved, hstate, mirror_dockStateValid]
    · intro _ _ _ _
      rw [isOnDock, Server.StateFacts.onDock, hobserved, hstate, mirror_dockStateValid]
  · exact numberText_of_small hcode

/-- A robot at rest on its charger, with fresh readings. -/
def sampleFacts (chargeState : String) (faultFlags : Int) : Server.StateFacts :=
  { Server.factsFromState "online"
      (some (Server.BaseStateData.ofPayload (Server.chargingBase "DOCKED_CONFIRMED") 0 false))
      (some ⟨true, 0, 0⟩) ["undock"] false (some (.finite (1 / 10))) (some (.finite 1)) false with
    chargeState := chargeState, faultFlags := faultFlags }

theorem comparable_sampleFacts : Comparable (sampleFacts "bulk" 0) := by
  constructor
  · decide +kernel
  · decide +kernel
  · decide +kernel
  · decide +kernel
  · rintro state ⟨⟩
    decide +kernel

theorem gates_mirror_sampleFacts :
    mirrored.map (fun command => rejectionReason command (mirror (sampleFacts "bulk" 0))) =
      mirrored.map fun command => Server.rejectionReason command (sampleFacts "bulk" 0) := by
  apply List.map_congr_left
  apply (gates_mirror (sampleFacts "bulk" 0) comparable_sampleFacts).mpr
  exact alike_of_plainEnds (by decide +kernel) (by decide +kernel) (by decide)

/-- A record separator behind the charge state is white space to the server alone,
    and a code of a sextillion is printed with an exponent. -/
theorem not_gates_mirror :
    Server.rejectionReason .chargeRelease (sampleFacts "bulk\x1f" 0) = none ∧
    rejectionReason .chargeRelease (mirror (sampleFacts "bulk\x1f" 0)) =
      some "The robot is not on charge, so there is nothing to release." ∧
    Server.rejectionReason .chargeRelease (sampleFacts "bulk" (10 ^ 21)) =
      some (faultSentence "1000000000000000000000") ∧
    rejectionReason .chargeRelease (mirror (sampleFacts "bulk" (10 ^ 21))) =
      some (faultSentence "1e+21") := by
  decide +kernel

end PatrolBot.Dashboard
