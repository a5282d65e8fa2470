import PatrolBot.TeleopPublication

/-!
# Malformed input to a manual session

A frame of the session's own stream that is no well-formed sample ends the session: the
robot is told to stop at once, not when the watchdog runs out.  The check of a frame asks
`math.isfinite` of the two velocities as they came, and that raises for an `int` beyond
every float.
-/

namespace PatrolBot.TeleopSession

variable {Context : Type} [DecidableEq Context]

/-- The number a value is. -/
def numberValue : Json → Option ℚ
  | .int n => some n
  | .float (.finite value) => some value
  | _ => none

/-- A sample of a manual session within the limits: the five keys and no other, a sequence
    number, two velocities and the deadman; a released one asks for a stop. -/
structure WellFormed (contract : TeleopContract) (fields : List (String × Json)) (seq : Int)
    (linear angular : ℚ) (deadman : Bool) : Prop where
  hasKeys : Json.hasExactly fields frameKeys = true
  hasSeq : Json.get fields "seq" = .int seq ∧ 0 ≤ seq
  hasLinear : numberValue (Json.get fields "linear") = some linear
  linearLimits : contract.linear.min ≤ linear ∧ linear ≤ contract.linear.max
  hasAngular : numberValue (Json.get fields "angular") = some angular
  angularLimits : contract.angular.min ≤ angular ∧ angular ≤ contract.angular.max
  hasDeadman : Json.get fields "deadman" = .bool deadman
  released : deadman = false → linear = 0 ∧ angular = 0

/-- The frame is handled without an exception, and ends the session if it is malformed: a
    zero is published, and no motion. -/
def EndsMalformed (contract : TeleopContract) (s : TeleopSession Context)
    (fields : List (String × Json)) (context : Context) (receivedAt : ℚ) (answers : Answers) :
    Prop :=
  .raised ∉ (s.frame contract (.obj fields) context receivedAt answers).2 ∧
    ((¬∃ seq linear angular deadman, WellFormed contract fields seq linear angular deadman) →
      (s.frame contract (.obj fields) context receivedAt answers).1.commandId = none ∧
      .publish 0 0 false ∈ (s.frame contract (.obj fields) context receivedAt answers).2 ∧
      ∀ linear angular,
        .publish linear angular true ∉
          (s.frame contract (.obj fields) context receivedAt answers).2)

/-- A frame of an acknowledged session: it names the session and comes in its context. -/
structure Addresses (s : TeleopSession Context) (fields : List (String × Json))
    (context : Context) : Prop where
  acknowledged : s.acknowledged = true
  context : s.context = some context
  commandId : ∃ id, s.commandId = some id ∧ Json.get fields "command_id" = .str id

/-- An `int` that is no float, not even a rounded one. -/
def oversized : Json → Bool
  | .int n => (floatOfInt n).isNone
  | _ => false

/-- The frame has the shape of a sample, but for a velocity that is oversized; behind an
    infinity or a NaN the second one is not looked at. -/
structure Overflows (fields : List (String × Json)) : Prop where
  keys : Json.hasExactly fields frameKeys = true
  seq : ∃ seq, Json.get fields "seq" = .int seq ∧ 0 ≤ seq
  deadman : ∃ deadman, Json.get fields "deadman" = .bool deadman
  linear : (Json.get fields "linear").isNumber = true
  angular : (Json.get fields "angular").isNumber = true
  velocity : oversized (Json.get fields "linear") = true ∨
    (∃ linear, isfinite (Json.get fields "linear") = .finite linear) ∧
      oversized (Json.get fields "angular") = true

/-! ### The check of a sample -/

section

variable {contract : TeleopContract} {fields : List (String × Json)}

theorem isfinite_eq_overflow {value : Json} :
    isfinite value = .overflow ↔ oversized value = true := by
  cases value with
  | int n =>
    simp only [isfinite, oversized]
    cases floatOfInt n <;> simp
  | float value => cases value <;> simp [isfinite, oversized]
  | _ => simp [isfinite, oversized]

theorem numberValue_of_isfinite {value : Json} {q : ℚ} (h : isfinite value = .finite q) :
    numberValue value = some q := by
  cases value with
  | int n =>
    simp only [isfinite] at h
    split at h
    · cases h
      rfl
    · cases h
  | float value =>
    cases value with
    | finite value =>
      cases h
      rfl
    | inf negative => cases h
    | nan => cases h
  | _ => cases h

theorem wellFormed_of_checkSample {seq : Int} {linear angular : ℚ} {deadman : Bool}
    (hkeys : Json.hasExactly fields frameKeys = true)
    (h : checkSample contract (Json.get fields "seq") (Json.get fields "linear")
      (Json.get fields "angular") (Json.get fields "deadman") =
        .sample seq linear angular deadman) :
    WellFormed contract fields seq linear angular deadman := by
  obtain ⟨hseq, hlinear, hangular, hdeadman, hin, hin'⟩ := limits_of_checkSample contract h
  rw [hseq, hdeadman, checkSample] at h
  split at h
  · cases h
  · rename_i hnumbers
    rw [hlinear, hangular] at h
    dsimp only at h
    split at h
    · cases h
    · rename_i hrange
      push Not at hnumbers hrange
      refine ⟨hkeys, ⟨hseq, hnumbers.1⟩, numberValue_of_isfinite hlinear,
        Limits.contains_iff.mp hin, numberValue_of_isfinite hangular, Limits.contains_iff.mp hin',
        hdeadman, hrange.2.2⟩

/-- The check raises on the frames that overflow and on no other. -/
theorem checkSample_eq_overflow (hkeys : Json.hasExactly fields frameKeys = true) :
    checkSample contract (Json.get fields "seq") (Json.get fields "linear")
      (Json.get fields "angular") (Json.get fields "deadman") = .overflow ↔ Overflows fields := by
  constructor
  · intro h
    unfold checkSample at h
    split at h
    · rename_i seq deadman hseq hdeadman
      split at h
      · cases h
      · rename_i hnumbers
        push Not at hnumbers
        obtain ⟨hnonneg, hlinear, hangular⟩ := hnumbers
        refine ⟨hkeys, ⟨seq, hseq, hnonneg⟩, ⟨deadman, hdeadman⟩, by simpa using hlinear,
          by simpa using hangular, ?_⟩
        split at h
        · rename_i hover
          exact Or.inl (isfinite_eq_overflow.mp hover)
        · cases h
        · rename_i linear hfinite
          split at h
          · rename_i hover
            exact Or.inr ⟨⟨linear, hfinite⟩, isfinite_eq_overflow.mp hover⟩
          · cases h
          · split at h
            · cases h
            · cases h
    · cases h
  · rintro ⟨-, ⟨seq, hseq, hnonneg⟩, ⟨deadman, hdeadman⟩, hlinear, hangular, hvelocity⟩
    rw [hseq, hdeadman, checkSample]
    have hnumbers : ¬(seq < 0 ∨ (Json.get fields "linear").isNumber = false ∨
        (Json.get fields "angular").isNumber = false) := by
      rw [hlinear, hangular]
      simp [hnonneg]
    rw [if_neg hnumbers]
    rcases hvelocity with hover | ⟨⟨linear, hfinite⟩, hover⟩
    · rw [isfinite_eq_overflow.mpr hover]
    · rw [hfinite, isfinite_eq_overflow.mpr hover]

end

/-! ### Frames -/

/-- What comes of the verdict on the fields. -/
def conclude (contract : TeleopContract) (s : TeleopSession Context) (receivedAt : ℚ)
    (answers : Answers) : SampleCheck → TeleopSession Context × List (Emit Context)
  | .overflow => (s, [.raised])
  | .invalid =>
    s.endAfter [] "Invalid or out-of-range manual input; session ended." .failed
      answers.zeroRaises false
  | .sample seq linear angular deadman =>
    s.acceptSample contract seq linear angular deadman receivedAt answers

omit [DecidableEq Context] in
theorem not_raised_endAfter {s : TeleopSession Context} {emits : List (Emit Context)}
    {reason : String} {outcome : EndOutcome} {zeroRaises value : Bool}
    (hemits : .raised ∉ emits) :
    .raised ∉ (s.endAfter emits reason outcome zeroRaises value).2 := by
  unfold endAfter endSession
  cases s.commandId with
  | none => simpa using hemits
  | some id =>
    cases s.acknowledged with
    | true => simpa using hemits
    | false => simpa using hemits

omit [DecidableEq Context] in
theorem not_raised_forward (contract : TeleopContract) {s : TeleopSession Context}
    {linear angular now : ℚ} {emits : List (Emit Context)} {answers : Answers}
    (hemits : .raised ∉ emits) :
    .raised ∉ (s.forward contract linear angular now emits answers).2 := by
  unfold forward
  dsimp only
  split
  · apply not_raised_endAfter
    simpa using hemits
  · split
    · apply not_raised_endAfter
      simpa using hemits
    · split
      · apply not_raised_endAfter
        simpa using hemits
      · split
        · apply not_raised_endAfter
          simpa using hemits
        · split
          · apply not_raised_endAfter
            simpa using hemits
          · simpa using hemits

omit [DecidableEq Context] in
theorem not_raised_acceptSample (contract : TeleopContract) (s : TeleopSession Context)
    (seq : Int) (linear angular : ℚ) (deadman : Bool) (receivedAt : ℚ) (answers : Answers) :
    .raised ∉ (s.acceptSample contract seq linear angular deadman receivedAt answers).2 := by
  unfold acceptSample
  dsimp only
  split
  · simp
  · split
    · exact not_raised_endAfter (by simp)
    · split
      · exact not_raised_endAfter (by simp)
      · split
        · exact not_raised_endAfter (by simp)
        · split
          · exact not_raised_endAfter (by simp)
          · exact not_raised_forward contract (by simp)

omit [DecidableEq Context] in
/-- What ending a session does, whatever the reason. -/
theorem endAfter_ends {s : TeleopSession Context} {reason : String} {outcome : EndOutcome}
    {zeroRaises value : Bool} :
    (s.endAfter [] reason outcome zeroRaises value).1.commandId = none ∧
      .publish 0 0 false ∈ (s.endAfter [] reason outcome zeroRaises value).2 ∧
      ∀ linear angular,
        .publish linear angular true ∉ (s.endAfter [] reason outcome zeroRaises value).2 := by
  refine ⟨?_, ?_, fun linear angular => no_motion_endAfter (by simp)⟩
  · unfold endAfter endSession
    cases s.commandId <;> rfl
  · unfold endAfter endSession
    cases s.commandId <;> simp

section

variable {contract : TeleopContract} {s : TeleopSession Context} {fields : List (String × Json)}
  {context : Context} {receivedAt : ℚ} {answers : Answers}

/-- A frame of an acknowledged session comes to the checks of its fields. -/
theorem frame_of_addresses (haddresses : Addresses s fields context) :
    s.frame contract (.obj fields) context receivedAt answers =
      if Json.hasExactly fields frameKeys = false then
        s.endAfter [] "Malformed manual input; session ended." .failed answers.zeroRaises false
      else s.conclude contract receivedAt answers
        (checkSample contract (Json.get fields "seq") (Json.get fields "linear")
          (Json.get fields "angular") (Json.get fields "deadman")) := by
  obtain ⟨hacknowledged, hcontext, id, hid, hnamed⟩ := haddresses
  rw [frame, hid]
  dsimp only
  rw [namesSession_iff.mpr hnamed, if_neg (by decide), hacknowledged, if_neg (by decide),
    hcontext, if_neg (by simp)]
  split
  · rfl
  · cases checkSample contract (Json.get fields "seq") (Json.get fields "linear")
      (Json.get fields "angular") (Json.get fields "deadman") <;> rfl

theorem frame_of_overflows (haddresses : Addresses s fields context) (hover : Overflows fields) :
    s.frame contract (.obj fields) context receivedAt answers = (s, [.raised]) := by
  rw [frame_of_addresses haddresses, hover.keys, if_neg (by decide),
    (checkSample_eq_overflow hover.keys).mpr hover, conclude]

/-- A frame of an acknowledged session is handled without an exception, and ends the session
    if it is malformed, exactly if it does not overflow. -/
theorem endsMalformed_iff (haddresses : Addresses s fields context) :
    EndsMalformed contract s fields context receivedAt answers ↔ ¬Overflows fields := by
  constructor
  · intro hends hover
    rw [EndsMalformed, frame_of_overflows haddresses hover] at hends
    exact hends.1 (List.mem_singleton_self _)
  · intro hover
    rw [EndsMalformed, frame_of_addresses haddresses]
    cases hkeys : Json.hasExactly fields frameKeys with
    | false => exact ⟨not_raised_endAfter (by simp), fun _ => endAfter_ends⟩
    | true =>
      rw [if_neg (by decide)]
      cases hcheck : checkSample contract (Json.get fields "seq") (Json.get fields "linear")
          (Json.get fields "angular") (Json.get fields "deadman") with
      | overflow => exact absurd ((checkSample_eq_overflow hkeys).mp hcheck) hover
      | invalid => exact ⟨not_raised_endAfter (by simp), fun _ => endAfter_ends⟩
      | sample seq linear angular deadman =>
        refine ⟨not_raised_acceptSample contract s seq linear angular deadman receivedAt answers,
          ?_⟩
        intro hmalformed
        exact absurd ⟨seq, linear, angular, deadman, wellFormed_of_checkSample hkeys hcheck⟩
          hmalformed

end

/-- An acknowledged session. -/
def driving : TeleopSession Nat where
  commandId := some "8b1a9953-c461-4d6c-a4a4-4f5f8d9e3f0a"
  context := some 0
  lastReceived := some 0
  acknowledged := true

/-- A frame for it with this forward velocity. -/
def drivingFrame (linear : Json) : List (String × Json) :=
  [("command_id", .str "8b1a9953-c461-4d6c-a4a4-4f5f8d9e3f0a"), ("seq", .int 0),
    ("linear", linear), ("angular", .int 0), ("deadman", .bool true)]

theorem addresses_drivingFrame (linear : Json) :
    Addresses driving (drivingFrame linear) 0 :=
  ⟨rfl, rfl, "8b1a9953-c461-4d6c-a4a4-4f5f8d9e3f0a", rfl, rfl⟩

theorem endsMalformed_of_text :
    EndsMalformed readContract driving (drivingFrame (.str "fast")) 0 0 calm ↔
      ¬Overflows (drivingFrame (.str "fast")) :=
  endsMalformed_iff (addresses_drivingFrame (.str "fast"))

/-- A velocity of four hundred digits raises, and the session stays open. -/
theorem not_endsMalformed :
    ¬∀ (s : TeleopSession Nat) fields context receivedAt answers, Addresses s fields context →
      EndsMalformed readContract s fields context receivedAt answers := by
  intro h
  have hover : Overflows (drivingFrame (.int (10 ^ 400))) :=
    ⟨by decide, ⟨0, rfl, le_rfl⟩, ⟨true, rfl⟩, rfl, rfl, Or.inl (by decide +kernel)⟩
  have hends := h driving (drivingFrame (.int (10 ^ 400))) 0 0 calm (addresses_drivingFrame _)
  rw [EndsMalformed, frame_of_overflows (addresses_drivingFrame _) hover] at hends
  exact hends.1 (List.mem_singleton_self _)

end PatrolBot.TeleopSession
