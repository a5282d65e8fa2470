import Mathlib.Data.List.Nodup
import PatrolBot.TuningValidation

/-!
# Two checks of one batch

`validateBatch` of the browser's `lib/tuning.ts` against `_check_dependencies`
of the server: both keep the constraints between parameters when a batch of
changes is saved.  The operands that the batch leaves alone have the robot's
saved values in the browser, and the packaged defaults on the server.
-/

namespace PatrolBot.Tuning

/-! ### The browser's check -/

/-- `TuningValue`. -/
inductive TuningValue where
  | number (value : PyFloat)
  | boolean (value : Bool)
  | text (value : String)
deriving DecidableEq

/-- A finite number, the only operand a constraint looks at. -/
def TuningValue.finite? : Option TuningValue → Option ℚ
  | some (.number (.finite q)) => some q
  | _ => none

/-- `JSON.stringify` of a value, as Python reads it back: a whole number below
    `1e21` is written without a fraction or an exponent. -/
def TuningValue.toJson : TuningValue → Json
  | .number (.finite q) =>
    if q.den = 1 ∧ q.num.natAbs < 10 ^ 21 then .int q.num else .float (.finite q)
  | .number _ => .null
  | .boolean value => .bool value
  | .text value => .str value

/-- `BatchChange`. -/
structure BatchChange where
  id : String
  value : TuningValue
deriving DecidableEq

def BatchChange.toJson (change : BatchChange) : Json :=
  .obj [("id", .str change.id), ("value", change.value.toJson)]

/-- A refusing `BatchValidation`: the sentence and the fields it is shown at. -/
structure BatchProblem where
  reason : Message
  ids : List String

/-- The packaged default as the browser reads it. -/
def defaultValue (entry : Parameter) : Option TuningValue :=
  match entry.default with
  | .int n => some (.number (.finite n))
  | .float q => some (.number q)
  | .bool value => some (.boolean value)
  | .str value => some (.text value)
  | _ => none

/-- `effectiveValues`: the saved value, then the reviewed default. -/
def effectiveValues (entries : Registry) (desired : String → Option TuningValue) :
    String → Option TuningValue :=
  entries.foldl (fun base entry key =>
    if key = entry.id then (desired entry.id).or (defaultValue entry) else base key) fun _ => none

/-- The changes laid over the base values. -/
def overlay (base : String → Option TuningValue) (changes : List BatchChange) :
    String → Option TuningValue :=
  changes.foldl (fun effective change key =>
    if key = change.id then some change.value else effective key) base

/-- The label of a field in a refusal. -/
def labelOf (entries : Registry) (id : String) : String :=
  match entries.reverse.find? (·.id = id) with
  | some entry => entry.label
  | none => id

/-- The `1e-9` slack of `validateBatch`. -/
def orderSlack : ℚ := 1 / 1000000000

/-- The tolerance of a sum that declares none. -/
def sumSlack : ℚ := 1 / 1000000

/-- The constraint between two operands, with the browser's slack. -/
def constraintProblem (entries : Registry) (touched : List String) (entry : Parameter)
    (dependency : Dependency) (effective : String → Option TuningValue) : Option BatchProblem :=
  match TuningValue.finite? (effective entry.id),
      TuningValue.finite? (effective dependency.target) with
  | some a, some b =>
    if dependency.kind = "less_than_or_equal" ∧ a > b + orderSlack then
      if entry.id ∉ touched ∧ speedKind entry.valueKind then none
      else some ⟨[entry.label, " must be no more than ", labelOf entries dependency.target, "."],
        [entry.id, dependency.target]⟩
    else if dependency.kind = "sum_equals" then
      let target := dependency.equals.getD 1
      if |a + b - target| > dependency.tolerance.getD sumSlack then
        some ⟨[entry.label, " and ", labelOf entries dependency.target, " must add up to ",
          boundText target, "."], [entry.id, dependency.target]⟩
      else none
    else none
  | _, _ => none

/-- `validateBatch`: the first problem, if there is one. -/
def validateBatch (changes : List BatchChange) (base : String → Option TuningValue)
    (entries : Registry) : Option BatchProblem :=
  let ids := changes.map BatchChange.id
  match (ids.zipIdx.filter fun (id, i) => decide (ids.idxOf id ≠ i)).map Prod.fst with
  | dupe :: dupes => some ⟨["Duplicate field in one save: ", dupe, "."], dupe :: dupes⟩
  | [] =>
    let effective := overlay base changes
    entries.findSome? fun entry => entry.dependencies.findSome? fun dependency =>
      if entry.id ∉ ids ∧ dependency.target ∉ ids then none
      else constraintProblem entries ids entry dependency effective

/-- What a save names besides its changes. -/
structure SaveHeader where
  sessionId : String
  requestId : String
  baseRevision : Int

/-- `saveRequest`, as it is read on the server. -/
def savePayload (header : SaveHeader) (changes : List BatchChange) : List (String × Json) :=
  [("contract", .str contractName), ("version", .int contractVersion),
    ("operation", .str "save"), ("request_id", .str header.requestId),
    ("generation", .obj [("capability", .str capability), ("session_id", .str header.sessionId)]),
    ("base_revision", .int header.baseRevision),
    ("changes", .list (changes.map BatchChange.toJson))]

/-! ### What an edge says of its operands -/

/-- The operands break the constraint; `exempt` when a speed that the batch
    leaves alone is over a ceiling. -/
def Edge.Broken (edge : Edge) (exempt : Bool) (left right : ℚ) : Prop :=
  (edge.kind = "less_than_or_equal" ∧ right < left ∧ exempt = false) ∨
    (edge.kind = "sum_equals" ∧ ∀ total, edge.equals = some total →
      edge.tolerance < |(left + right) - total|)

/-- The source is a speed that the batch leaves alone. -/
def Edge.exempt (edge : Edge) (index : Index) (resolved : List (String × Json)) : Bool :=
  decide (edge.source ∉ resolved.map Prod.fst) &&
    (index.lookup edge.source).any fun entry => speedKind entry.valueKind

section Server

variable (index : Index) (resolved : List (String × Json)) (edge : Edge)

/-- The operands are numbers, and break the constraint, when the packaged
    defaults stand in for what the batch leaves alone. -/
def Edge.BrokenAtDefaults : Prop :=
  ∃ left right, finiteValue (resolvedValue edge.source resolved index) = some left ∧
    finiteValue (resolvedValue edge.target resolved index) = some right ∧
    edge.Broken (edge.exempt index resolved) left right

/-- The operands are numbers and keep the constraint. -/
def Edge.HoldsAtDefaults : Prop :=
  ∃ left right, finiteValue (resolvedValue edge.source resolved index) = some left ∧
    finiteValue (resolvedValue edge.target resolved index) = some right ∧
    ¬edge.Broken (edge.exempt index resolved) left right

/-- Of the edges with an end in the batch the first that does not hold is a
    broken one. -/
def BrokenFirst : Prop :=
  ∃ before edge after, (dependencyEdges index).filter (·.touched resolved) =
      before ++ edge :: after ∧
    (∀ earlier ∈ before, earlier.HoldsAtDefaults index resolved) ∧
    edge.BrokenAtDefaults index resolved

end Server

variable {index : Index} {resolved : List (String × Json)} {edge : Edge}

/-- An edge raises a violation where it is broken, and nothing where it holds. -/
theorem edgeProblem_of_operands {left right : ℚ}
    (hleft : finiteValue (resolvedValue edge.source resolved index) = some left)
    (hright : finiteValue (resolvedValue edge.target resolved index) = some right) :
    (edge.Broken (edge.exempt index resolved) left right →
      ∃ problem, edgeProblem edge index resolved = some problem ∧
        problem.code = "dependency_violation") ∧
    (¬edge.Broken (edge.exempt index resolved) left right →
      edgeProblem edge index resolved = none) := by
  have hexempt : edge.exempt index resolved = true ↔ edge.source ∉ resolved.map Prod.fst ∧
      ((index.lookup edge.source).any fun entry => speedKind entry.valueKind) = true := by
    simp only [Edge.exempt, Bool.and_eq_true, decide_eq_true_eq]
  simp only [edgeProblem, hleft, hright, ← hexempt]
  by_cases hkind : edge.kind = "less_than_or_equal"
  · have hsum : ¬edge.kind = "sum_equals" := by
      rw [hkind]
      decide
    simp only [hkind, if_true, gt_iff_lt, Edge.Broken, true_and]
    by_cases hlt : right < left
    · simp only [hlt, if_true, true_and]
      cases edge.exempt index resolved <;> simp
    · simp [hlt]
  · simp only [hkind, if_false, Edge.Broken, false_and, false_or]
    by_cases hsum : edge.kind = "sum_equals"
    · simp only [hsum, if_true, true_and]
      cases htotal : edge.equals with
      | none => simp
      | some total =>
        by_cases hfar : edge.tolerance < |(left + right) - total|
        · simp [hfar, not_le.mpr hfar]
        · simp [hfar, not_lt.mp hfar]
    · simp [hsum]

theorem edgeProblem_eq_none : edgeProblem edge index resolved = none ↔
    edge.HoldsAtDefaults index resolved := by
  constructor
  · intro h
    cases hleft : finiteValue (resolvedValue edge.source resolved index) with
    | none => simp [edgeProblem, hleft] at h
    | some left =>
      cases hright : finiteValue (resolvedValue edge.target resolved index) with
      | none => simp [edgeProblem, hleft, hright] at h
      | some right =>
        refine ⟨left, right, hleft, hright, ?_⟩
        intro hbroken
        obtain ⟨problem, hproblem, -⟩ := (edgeProblem_of_operands hleft hright).1 hbroken
        rw [h] at hproblem
        cases hproblem
  · rintro ⟨left, right, hleft, hright, hholds⟩
    exact (edgeProblem_of_operands hleft hright).2 hholds

theorem edgeProblem_violation {problem : Invalid}
    (h : edgeProblem edge index resolved = some problem) :
    problem.code = "dependency_violation" ↔ edge.BrokenAtDefaults index resolved := by
  cases hleft : finiteValue (resolvedValue edge.source resolved index) with
  | none =>
    simp only [edgeProblem, hleft, Option.some.injEq] at h
    subst h
    simp [Edge.BrokenAtDefaults, hleft]
  | some left =>
    cases hright : finiteValue (resolvedValue edge.target resolved index) with
    | none =>
      simp only [edgeProblem, hleft, hright, Option.some.injEq] at h
      subst h
      simp [Edge.BrokenAtDefaults, hright]
    | some right =>
      have hspec := edgeProblem_of_operands hleft hright
      have hbroken : edge.Broken (edge.exempt index resolved) left right := by
        by_contra hholds
        rw [hspec.2 hholds] at h
        cases h
      obtain ⟨problem', hproblem', hcode⟩ := hspec.1 hbroken
      obtain rfl := Option.some.inj (h.symm.trans hproblem')
      exact ⟨fun _ => ⟨left, right, hleft, hright, hbroken⟩, fun _ => hcode⟩

/-- `_check_dependencies` raises a violation exactly where an edge is the first
    that does not hold, and is broken. -/
theorem checkDependencies_violation : (∃ problem, checkDependencies index resolved =
      .error problem ∧ problem.code = "dependency_violation") ↔ BrokenFirst index resolved := by
  unfold checkDependencies
  constructor
  · rintro ⟨problem, h, hcode⟩
    split at h
    · rename_i found hfound
      obtain rfl := Except.error.inj h
      obtain ⟨before, edge, after, hsplit, hedge, hbefore⟩ :=
        List.findSome?_eq_some_iff.mp hfound
      refine ⟨before, edge, after, hsplit, ?_, (edgeProblem_violation hedge).mp hcode⟩
      intro earlier hearlier
      exact edgeProblem_eq_none.mp (hbefore earlier hearlier)
    · cases h
  · rintro ⟨before, edge, after, hsplit, hbefore, hbroken⟩
    obtain ⟨left, right, hleft, hright, h⟩ := hbroken
    obtain ⟨problem, hproblem, hcode⟩ := (edgeProblem_of_operands hleft hright).1 h
    have hfound : ((dependencyEdges index).filter (·.touched resolved)).findSome?
        (fun edge => edgeProblem edge index resolved) = some problem := by
      rw [List.findSome?_eq_some_iff]
      refine ⟨before, edge, after, hsplit, hproblem, ?_⟩
      intro earlier hearlier
      exact edgeProblem_eq_none.mpr (hbefore earlier hearlier)
    rw [hfound]
    exact ⟨problem, rfl, hcode⟩

/-! ### What the rest of `validate_request` raises -/

/-- The check never fails with a dependency violation. -/
def Spares {α : Type} (x : Checked α) : Prop :=
  ∀ problem, x = .error problem → problem.code ≠ "dependency_violation"

section Spares

variable {α β : Type} {x : Checked α} {f : α → Checked β} {detail : Message} {code : String}

theorem spares_ok (a : α) : Spares (.ok a) := by
  intro problem h
  cases h

theorem spares_error (hcode : code ≠ "dependency_violation") :
    Spares (.error ⟨detail, code⟩ : Checked α) := by
  intro problem h
  obtain rfl := Except.error.inj h
  exact hcode

theorem spares_require {c : Prop} [Decidable c] (hcode : code ≠ "dependency_violation") :
    Spares (require c detail code) := by
  unfold require
  split
  · exact spares_ok _
  · exact spares_error hcode

theorem Spares.bind (hx : Spares x) (hf : ∀ a, x = .ok a → Spares (f a)) : Spares (x >>= f) := by
  cases x with
  | error problem => exact fun problem' h => hx problem' (by simpa [Bind.bind, Except.bind] using h)
  | ok a => exact hf a rfl

end Spares

theorem spares_scanText {maxBytes : Nat} {text : String} {count : ScanCount} :
    Spares (scanText maxBytes text count) := by
  unfold scanText
  split
  · exact spares_error (by decide)
  · exact spares_ok _

theorem spares_scanKeys {maxBytes : Nat} {keys : List String} {count : ScanCount} :
    Spares (scanKeys maxBytes keys count) := by
  induction keys generalizing count with
  | nil => exact spares_ok _
  | cons key keys ih =>
    unfold scanKeys
    split
    · exact spares_error (by decide)
    · exact spares_scanText.bind fun _ _ => ih

theorem spares_scanNode {maxBytes depth : Nat} {node : Json} {count : ScanCount} :
    Spares (scanNode maxBytes depth node count) := by
  unfold scanNode
  split
  · exact spares_error (by decide)
  · dsimp only
    split
    · rename_i problem hcounted
      have hspares : Spares (.error problem : Checked ScanCount) := by
        rw [← hcounted]
        cases node with
        | null => exact spares_ok _
        | bool value => exact spares_ok _
        | float value =>
          dsimp only
          split
          · exact spares_ok _
          · exact spares_error (by decide)
        | int n =>
          dsimp only
          split
          · exact spares_error (by decide)
          · exact spares_ok _
        | str text => exact spares_scanText
        | list items =>
          dsimp only [scanItems]
          split
          · exact spares_ok _
          · split
            · exact spares_error (by decide)
            · exact spares_ok _
        | obj fields => exact spares_scanKeys
      exact fun problem' h => hspares problem' (by simpa using h)
    · split
      · exact spares_error (by decide)
      · exact spares_ok _

mutual

theorem spares_scanValue {maxBytes depth : Nat} (node : Json) (count : ScanCount) :
    Spares (scanValue maxBytes depth node count) := by
  cases node with
  | list items =>
    unfold scanValue
    exact spares_scanNode.bind fun count _ => spares_scanList items count
  | obj fields =>
    unfold scanValue
    exact spares_scanNode.bind fun count _ => spares_scanFields fields count
  | null =>
    unfold scanValue
    exact spares_scanNode
  | bool value =>
    unfold scanValue
    exact spares_scanNode
  | int n =>
    unfold scanValue
    exact spares_scanNode
  | float value =>
    unfold scanValue
    exact spares_scanNode
  | str text =>
    unfold scanValue
    exact spares_scanNode

theorem spares_scanList {maxBytes depth : Nat} (items : List Json) (count : ScanCount) :
    Spares (scanList maxBytes depth items count) := by
  cases items with
  | nil => exact spares_ok _
  | cons item items =>
    unfold scanList
    exact (spares_scanList items count).bind fun count _ => spares_scanValue item count

theorem spares_scanFields {maxBytes depth : Nat} (fields : List (String × Json))
    (count : ScanCount) : Spares (scanFields maxBytes depth fields count) := by
  cases fields with
  | nil => exact spares_ok _
  | cons field fields =>
    obtain ⟨key, value⟩ := field
    unfold scanFields
    exact (spares_scanFields fields count).bind fun count _ => spares_scanValue value count

end

theorem spares_checkBounds {entry : Parameter} {value : ℚ} : Spares (checkBounds entry value) := by
  unfold checkBounds
  apply Spares.bind
  · unfold checkLower
    split
    · exact spares_ok _
    · split <;> exact spares_require (by decide)
  · intro _ _
    unfold checkUpper
    split
    · exact spares_ok _
    · split <;> exact spares_require (by decide)

theorem spares_checkValue {entry : Parameter} {value : Json} {withBounds : Bool} :
    Spares (checkValue entry value withBounds) := by
  unfold checkValue
  split
  · exact spares_require (by decide)
  · split
    · split
      · exact spares_error (by decide)
      · apply Spares.bind (spares_require (by decide))
        intro _ _
        split
        · exact spares_checkBounds
        · exact spares_ok _
    · exact spares_error (by decide)

theorem spares_checkChange {change : Json} : Spares (checkChange change index) := by
  unfold checkChange
  split
  · apply Spares.bind (spares_require (by decide))
    intro _ _
    split
    · apply Spares.bind (spares_require (by decide))
      intro _ _
      split
      · exact spares_error (by decide)
      · apply Spares.bind (spares_require (by decide))
        intro _ _
        apply Spares.bind (spares_require (by decide))
        intro _ _
        apply Spares.bind (spares_require (by decide))
        intro _ _
        split
        · exact spares_error (by decide)
        · apply Spares.bind (spares_require (by decide))
          intro _ _
          exact spares_checkValue.bind fun _ _ => spares_ok _
    · exact spares_error (by decide)
  · exact spares_error (by decide)

theorem spares_checkChanges {changes : List Json} :
    Spares (checkChanges index changes resolved) := by
  induction changes generalizing resolved with
  | nil => exact spares_ok _
  | cons change changes ih =>
    unfold checkChanges
    apply spares_checkChange.bind
    intro _ _
    exact Spares.bind (spares_require (by decide)) fun _ _ => ih

theorem spares_checkRevision {payload : List (String × Json)} {key : String} :
    Spares (checkRevision payload key) := by
  unfold checkRevision
  split
  · exact spares_error (by decide)
  · split
    · exact spares_error (by decide)
    · exact Spares.bind (spares_require (by decide)) fun _ _ => spares_ok _

theorem spares_checkSave {payload : List (String × Json)} : Spares (checkSave payload index) := by
  unfold checkSave
  apply spares_checkRevision.bind
  intro _ _
  split
  · exact Spares.bind (spares_require (by decide)) fun _ _ => spares_checkChanges
  · exact spares_error (by decide)

theorem spares_checkGeneration {payload : List (String × Json)} :
    Spares (checkGeneration payload) := by
  unfold checkGeneration
  split
  · apply Spares.bind (spares_require (by decide))
    intro _ _
    apply Spares.bind (spares_require (by decide))
    intro _ _
    exact spares_require (by decide)
  · exact spares_error (by decide)

theorem spares_checkEnvelope {payload : List (String × Json)} {operation : String} :
    Spares (checkEnvelope payload operation) := by
  unfold checkEnvelope
  apply Spares.bind (spares_require (by decide))
  intro _ _
  apply Spares.bind (spares_require (by decide))
  intro _ _
  apply Spares.bind (spares_require (by decide))
  intro _ _
  apply Spares.bind (spares_require (by decide))
  intro _ _
  apply Spares.bind (spares_require (by decide))
  intro _ _
  apply Spares.bind (spares_require (by decide))
  intro _ _
  exact spares_checkGeneration

/-! ### The two checks of one save -/

/-- The batch as the server resolves it. -/
def resolvedOf (changes : List BatchChange) : List (String × Json) :=
  changes.map fun change => (change.id, change.value.toJson)

theorem checkChange_toJson {change : BatchChange} {pair : String × Json}
    (h : checkChange change.toJson index = .ok pair) :
    pair = (change.id, change.value.toJson) := by
  unfold checkChange BatchChange.toJson at h
  simp only [bind_eq_ok, require_eq_ok, exists_and_left, exists_const, Json.get, Json.lookup,
    Option.getD_some, if_true] at h
  obtain ⟨-, -, h⟩ := h
  split at h
  · cases h
  · simp only [bind_eq_ok, require_eq_ok] at h
    obtain ⟨-, -, -, -, -, -, h⟩ := h
    simp only [String.reduceEq, if_false] at h
    simp only [bind_eq_ok, require_eq_ok, pure, Except.pure, Except.ok.injEq] at h
    obtain ⟨-, -, -, -, h⟩ := h
    exact h.symm

theorem checkChanges_toJson {changes : List BatchChange} {before : List (String × Json)}
    (h : checkChanges index (changes.map BatchChange.toJson) before = .ok resolved) :
    resolved = before ++ resolvedOf changes := by
  induction changes generalizing before with
  | nil =>
    simp only [List.map_nil, checkChanges, Except.ok.injEq] at h
    simp [resolvedOf, h]
  | cons change changes ih =>
    simp only [List.map_cons, checkChanges, bind_eq_ok, require_eq_ok] at h
    obtain ⟨pair, hpair, -, -, h⟩ := h
    rw [ih h, checkChange_toJson hpair]
    simp [resolvedOf]

/-- An accepted batch has valid changes, no two of one parameter. -/
theorem checkChanges_valid {changes : List BatchChange} {before : List (String × Json)}
    (h : checkChanges index (changes.map BatchChange.toJson) before = .ok resolved) :
    (∀ change ∈ changes, failureCode (checkChange change.toJson index) = none) ∧
      (changes.map BatchChange.id).Nodup ∧
      ∀ change ∈ changes, change.id ∉ before.map Prod.fst := by
  induction changes generalizing before with
  | nil => simp
  | cons change changes ih =>
    simp only [List.map_cons, checkChanges, bind_eq_ok, require_eq_ok] at h
    obtain ⟨pair, hpair, -, hfresh, h⟩ := h
    obtain ⟨hvalid, hnodup, hapart⟩ := ih h
    obtain rfl := checkChange_toJson hpair
    simp only [List.map_append, List.map_cons, List.map_nil, List.mem_append, List.mem_singleton,
      not_or] at hapart
    refine ⟨?_, ?_, ?_⟩
    · rintro other (_ | ⟨_, hmem⟩)
      · exact failureCode_eq_none.mpr ⟨_, hpair⟩
      · exact hvalid other hmem
    · rw [List.map_cons, List.nodup_cons]
      refine ⟨?_, hnodup⟩
      intro hmem
      obtain ⟨other, hother, heq⟩ := List.mem_map.mp hmem
      exact (hapart other hother).2 heq
    · rintro other (_ | ⟨_, hmem⟩)
      · exact hfresh
      · exact (hapart other hmem).1

section Save

variable (registry : Registry) (header : SaveHeader) (changes : List BatchChange)

/-- Every change is within its parameter's type and bounds. -/
def ValidChanges : Prop :=
  ∀ change ∈ changes, failureCode (checkChange change.toJson (registryIndex registry)) = none

/-- The server comes to the constraints of the save: nothing else is wrong with
    it. -/
def ReachesConstraints : Prop :=
  (∃ count, scan requestMaxBytes (.obj (savePayload header changes)) = .ok count) ∧
    checkEnvelope (savePayload header changes) "save" = .ok () ∧
    ∃ resolved, checkSave (savePayload header changes) (registryIndex registry) = .ok resolved

/-- The server refuses the save because of a constraint. -/
def RefusedForConstraint : Prop :=
  failureCode (validateRequest registry (.obj (savePayload header changes))) =
    some "dependency_violation"

end Save

variable {registry : Registry} {header : SaveHeader} {changes : List BatchChange}

theorem checkSave_savePayload {resolved : List (String × Json)}
    (h : checkSave (savePayload header changes) index = .ok resolved) :
    checkChanges index (changes.map BatchChange.toJson) [] = .ok resolved := by
  unfold checkSave at h
  have hchanges : Json.get (savePayload header changes) "changes" =
      .list (changes.map BatchChange.toJson) := rfl
  simp only [hchanges, bind_eq_ok] at h
  obtain ⟨-, -, -, -, h⟩ := h
  exact h

theorem refusedForConstraint_iff : RefusedForConstraint registry header changes ↔
    ReachesConstraints registry header changes ∧
      BrokenFirst (registryIndex registry) (resolvedOf changes) := by
  have hoperation : Json.get (savePayload header changes) "operation" = .str "save" := rfl
  rw [RefusedForConstraint, failureCode_eq_some]
  unfold ReachesConstraints validateRequest
  simp only [hoperation]
  constructor
  · rintro ⟨problem, h, hcode⟩
    cases hscan : scan requestMaxBytes (.obj (savePayload header changes)) with
    | error reason =>
      rw [hscan] at h
      obtain rfl := Except.error.inj h
      exact absurd hcode (spares_scanValue _ _ _ hscan)
    | ok count =>
    cases henvelope : checkEnvelope (savePayload header changes) "save" with
    | error reason =>
      rw [hscan, henvelope] at h
      obtain rfl := Except.error.inj h
      exact absurd hcode (spares_checkEnvelope _ henvelope)
    | ok u =>
    cases hsave : checkSave (savePayload header changes) (registryIndex registry) with
    | error reason =>
      rw [hscan, henvelope] at h
      simp only [checkOperation, hsave] at h
      obtain rfl := Except.error.inj h
      exact absurd hcode (spares_checkSave _ hsave)
    | ok resolved =>
    rw [hscan, henvelope] at h
    simp only [checkOperation, hsave] at h
    have hresolved := checkChanges_toJson (checkSave_savePayload hsave)
    rw [List.nil_append] at hresolved
    subst hresolved
    refine ⟨⟨⟨count, rfl⟩, rfl, _, rfl⟩, checkDependencies_violation.mp ⟨problem, ?_, hcode⟩⟩
    change (checkDependencies (registryIndex registry) (resolvedOf changes) >>= fun _ => _) = _ at h
    cases hdeps : checkDependencies (registryIndex registry) (resolvedOf changes) with
    | error reason =>
      rw [hdeps] at h
      obtain rfl := Except.error.inj h
      rfl
    | ok u =>
      rw [hdeps] at h
      cases h
  · rintro ⟨⟨⟨count, hscan⟩, henvelope, resolved, hsave⟩, hbroken⟩
    have hresolved := checkChanges_toJson (checkSave_savePayload hsave)
    rw [List.nil_append] at hresolved
    subst hresolved
    obtain ⟨problem, hproblem, hcode⟩ := checkDependencies_violation.mpr hbroken
    refine ⟨problem, ?_, hcode⟩
    rw [hscan, henvelope]
    simp only [checkOperation, hsave]
    change (checkDependencies (registryIndex registry) (resolvedOf changes) >>= fun _ => _) = _
    rw [hproblem]
    rfl

/-! ### The browser's verdict -/

/-- The operands are finite and break the constraint beyond the browser's
    slack, when the robot's saved values stand in for what the batch leaves
    alone. -/
def BrokenAtSaved (entry : Parameter) (dependency : Dependency) (touched : List String)
    (effective : String → Option TuningValue) : Prop :=
  ∃ a b, TuningValue.finite? (effective entry.id) = some a ∧
    TuningValue.finite? (effective dependency.target) = some b ∧
    ((dependency.kind = "less_than_or_equal" ∧ b + orderSlack < a ∧
        ¬(entry.id ∉ touched ∧ speedKind entry.valueKind = true)) ∨
      (dependency.kind = "sum_equals" ∧
        dependency.tolerance.getD sumSlack < |a + b - dependency.equals.getD 1|))

theorem constraintProblem_eq_none {touched : List String} {entry : Parameter}
    {dependency : Dependency} {effective : String → Option TuningValue} :
    constraintProblem registry touched entry dependency effective = none ↔
      ¬BrokenAtSaved entry dependency touched effective := by
  unfold constraintProblem BrokenAtSaved
  cases ha : TuningValue.finite? (effective entry.id) with
  | none => simp
  | some a =>
    cases hb : TuningValue.finite? (effective dependency.target) with
    | none => simp
    | some b =>
      dsimp only
      by_cases hkind : dependency.kind = "less_than_or_equal"
      · have hsum : ¬dependency.kind = "sum_equals" := by
          rw [hkind]
          decide
        by_cases hover : b + orderSlack < a
        · by_cases hexempt : entry.id ∉ touched ∧ speedKind entry.valueKind = true
          · simp [hkind, hexempt]
          · simp only [hkind, gt_iff_lt, hover, and_self, if_true, if_neg hexempt]
            simp [hover, hexempt]
        · simp [hkind, hover]
      · by_cases hsum : dependency.kind = "sum_equals"
        · by_cases hfar : dependency.tolerance.getD sumSlack <
              |a + b - dependency.equals.getD 1|
          · simp [hsum, hfar]
          · simp [hsum, hfar]
        · simp [hkind, hsum]

/-- The ids of a batch are distinct exactly when none stands at a place that is
    not its first. -/
theorem nodup_iff_no_dupes {ids : List String} :
    (ids.zipIdx.filter fun pair => decide (ids.idxOf pair.1 ≠ pair.2)) = [] ↔ ids.Nodup := by
  rw [List.filter_eq_nil_iff]
  constructor
  · intro h
    rw [List.nodup_iff_injective_get]
    intro i j hij
    have hfirst : ∀ k : Fin ids.length, ids.idxOf (ids.get k) = k := by
      intro k
      have hmem : (ids.get k, (k : Nat)) ∈ ids.zipIdx := by
        rw [List.mk_mem_zipIdx_iff_getElem?]
        simp
      simpa using h _ hmem
    exact Fin.ext (by rw [← hfirst i, hij, hfirst j])
  · rintro hnodup ⟨id, i⟩ hmem
    rw [List.mk_mem_zipIdx_iff_getElem?] at hmem
    obtain ⟨hlt, rfl⟩ := List.getElem?_eq_some_iff.mp hmem
    simp [hnodup.idxOf_getElem]

theorem validateBatch_eq_none {base : String → Option TuningValue} :
    validateBatch changes base registry = none ↔
      (changes.map BatchChange.id).Nodup ∧
      ∀ entry ∈ registry, ∀ dependency ∈ entry.dependencies,
        (entry.id ∈ changes.map BatchChange.id ∨
          dependency.target ∈ changes.map BatchChange.id) →
        ¬BrokenAtSaved entry dependency (changes.map BatchChange.id) (overlay base changes) := by
  unfold validateBatch
  dsimp only
  by_cases hnodup : (changes.map BatchChange.id).Nodup
  · rw [nodup_iff_no_dupes.mpr hnodup]
    simp only [List.map_nil, List.findSome?_eq_none_iff, hnodup, true_and]
    constructor
    · intro h entry hentry dependency hdependency htouched
      have := h entry hentry dependency hdependency
      rw [if_neg (by tauto)] at this
      exact constraintProblem_eq_none.mp this
    · intro h entry hentry dependency hdependency
      by_cases htouched : entry.id ∈ changes.map BatchChange.id ∨
          dependency.target ∈ changes.map BatchChange.id
      · rw [if_neg (by tauto)]
        exact constraintProblem_eq_none.mpr (h entry hentry dependency hdependency htouched)
      · rw [if_pos (by tauto)]
  · simp only [hnodup, false_and, iff_false]
    intro h
    split at h
    · cases h
    · rename_i hdupes
      exact hnodup (nodup_iff_no_dupes.mp (List.map_eq_nil_iff.mp hdupes))

/-- The particle counts of the localizer, as the catalog has them. -/
def particleEntries : Registry :=
  [{ id := "amcl.min_particles", label := "AMCL minimum particle count", group := "amcl",
     type := .integer, valueKind := "count", default := .int 1000,
     bounds := { lower := some 50, upper := some 5000 },
     dependencies := [{ kind := "less_than_or_equal", target := "amcl.max_particles" }] },
   { id := "amcl.max_particles", label := "AMCL maximum particle count", group := "amcl",
     type := .integer, valueKind := "count", default := .int 4000,
     bounds := { lower := some 50, upper := some 10000 } }]

/-- The robot's saved values: the maximum has been raised to 6000. -/
def particleDesired (id : String) : Option TuningValue :=
  if id = "amcl.max_particles" then some (.number (.finite 6000)) else none

def particleHeader : SaveHeader :=
  ⟨"11111111-1111-4111-8111-111111111111", "22222222-2222-4222-8222-222222222222", 4⟩

/-- A minimum of 5000, below the saved maximum and above the packaged one. -/
def particleChanges : List BatchChange := [⟨"amcl.min_particles", .number (.finite 5000)⟩]

end PatrolBot.Tuning
