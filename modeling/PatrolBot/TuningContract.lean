import PatrolBot.PyArithmetic
import PatrolBot.TuningValidation

/-!
# The catalog as the tuning contract checks it

`contracts/validate_robot_tuning.py` up to `check_registry`.  The catalog is
read as it was parsed, so an entry may have any shape; a check that meets a
shape it cannot handle raises, which is `none` here.
-/

namespace PatrolBot.Tuning.Contract

abbrev Fields := List (String × Json)

/-- The catalog by logical id. -/
abbrev Entries := List (String × Fields)

/-! ### Reports -/

/-- The problems of checks made one after another. -/
def reports {α : Type} : List (Option (List α)) → Option (List α)
  | [] => some []
  | check :: checks => do
    let found ← check
    let later ← reports checks
    pure (found ++ later)

/-- `if c: problems.append(problem)`. -/
def reportIf {α : Type} (c : Prop) [Decidable c] (problem : α) : Option (List α) :=
  some (if c then [problem] else [])

@[simp] theorem reportIf_eq_nil {α : Type} {c : Prop} [Decidable c] {problem : α} :
    reportIf c problem = some [] ↔ ¬c := by
  unfold reportIf
  split <;> simp_all

theorem append_eq_nil {α : Type} {found later : Option (List α)} :
    (do let first ← found; let rest ← later; pure (first ++ rest)) = some [] ↔
      found = some [] ∧ later = some [] := by
  rcases found with _ | found
  · simp
  · rcases later with _ | later
    · simp
    · simp

@[simp] theorem reports_nil {α : Type} : reports ([] : List (Option (List α))) = some [] := rfl

@[simp] theorem reports_cons {α : Type} {check : Option (List α)} {checks} :
    reports (check :: checks) = some [] ↔ check = some [] ∧ reports checks = some [] :=
  append_eq_nil

theorem reports_eq_nil {α : Type} {checks : List (Option (List α))} :
    reports checks = some [] ↔ ∀ check ∈ checks, check = some [] := by
  induction checks with
  | nil => simp
  | cons check checks ih => simp [ih]

/-- Where no check raises, what holds of each check's report holds of all. -/
theorem exists_reports {α : Type} {P : α → Prop} {checks : List (Option (List α))}
    (h : ∀ check ∈ checks, ∃ found, check = some found ∧ ∀ problem ∈ found, P problem) :
    ∃ problems, reports checks = some problems ∧ ∀ problem ∈ problems, P problem := by
  induction checks with
  | nil => exact ⟨[], rfl, by simp⟩
  | cons check checks ih =>
    obtain ⟨found, rfl, hfound⟩ := h check List.mem_cons_self
    obtain ⟨problems, hproblems, hrest⟩ :=
      ih fun other hother => h other (List.mem_cons_of_mem _ hother)
    refine ⟨found ++ problems, by rw [reports, hproblems]; rfl, ?_⟩
    intro problem hproblem
    exact (List.mem_append.mp hproblem).elim (hfound problem) (hrest problem)

/-! ### Values -/

/-- `_is_finite_number`, with the number as its answer; the size of an `int` is
    no matter. -/
def realOf : Json → Option ℚ
  | .int n => some n
  | .float (.finite x) => some x
  | _ => none

/-- `isinstance(value, bool)`. -/
def isBool : Json → Bool
  | .bool _ => true
  | _ => false

/-- `value is False`. -/
def isFalse : Json → Bool
  | .bool value => !value
  | _ => false

/-- `isinstance(value, dict)`, with its fields as the answer. -/
def asObject : Json → Option Fields
  | .obj fields => some fields
  | _ => none

/-- `isinstance(value, list)`, with its items as the answer. -/
def asList : Json → Option (List Json)
  | .list items => some items
  | _ => none

/-- `value is None`. -/
def isNull : Json → Bool
  | .null => true
  | _ => false

/-- `hash(value)`, which a list and a dictionary have none of. -/
def hashed : Json → Option Unit
  | .list _ => none
  | .obj _ => none
  | _ => some ()

/-- `value in keys`, for a set or a dictionary whose keys are texts. -/
def among (keys : List String) (value : Json) : Option Bool := do
  let _ ← hashed value
  pure ((asText value).any keys.contains)

/-- `data.get(key, default)`. -/
def getOr (fields : Fields) (key : String) (default : Json) : Json :=
  (Json.lookup key fields).getD default

/-- What `{value}` shows of a value that is no text. -/
def shown : Json → Piece
  | .str value => value
  | value => .repr value

/-! ### The catalog -/

/-- `index[entry["id"]] = entry`, for an entry that has a text for an id. -/
def indexed (index : Entries) (entry : Json) : Entries :=
  match entry with
  | .obj fields => match Json.get fields "id" with
    | .str id => insertAt id fields index
    | _ => index
  | _ => index

/-- `registry_index`. -/
def entriesOf (parameters : List Json) : Entries := parameters.foldl indexed []

/-- `registry["parameters"]`, when there is such a list. -/
def parametersOf (registry : Json) : Option (List Json) :=
  match registry with
  | .obj fields => asList (Json.get fields "parameters")
  | _ => none

/-- `registry_index`. -/
def registryEntries (registry : Json) : Entries :=
  match parametersOf registry with
  | some parameters => entriesOf parameters
  | none => []

/-- `_safe_relative_source_path`. -/
def safeRelativeSourcePath : Json → Bool
  | .str path =>
    let characters := path.toList
    let parts := characters.splitOn '/'
    !characters.isEmpty && characters.head? != some '/' && !characters.contains '\\' &&
      !characters.contains '\x00' && !parts.contains ['.', '.'] && !parts.contains []
  | _ => false

/-- The declared types of the catalog. -/
def declaredTypes : List String := ["number", "integer", "boolean", "string"]

/-- `_value_errors`, for one of the declared types. -/
def valueErrors (value : Json) (declared : String) : List String :=
  if declared = "number" then
    if (realOf value).isSome then [] else ["default must be a finite number"]
  else if declared = "integer" then
    if (strictInt value).isSome then [] else ["default must be an integer"]
  else if declared = "boolean" then
    if isBool value then [] else ["default must be a boolean"]
  else if declared = "string" then
    if (asText value).isSome then [] else ["default must be a string"]
  else ["unknown declared type"]

/-! ### `check_registry` -/

/-- The envelope's ceilings, `0.30` and `0.70`. -/
def ceilings : List (String × ℚ) :=
  [("max_linear_m_s", 5404319552844595 / 2 ^ 54), ("max_angular_rad_s", 3152519739159347 / 2 ^ 52)]

/-- The contract, its version and its capability. -/
def headProblems (registry : Fields) : Option (List Message) :=
  let capability := Json.get registry "capability"
  let held := (asObject capability).getD []
  reports [
    reportIf (!isText (Json.get registry "contract") contractName) ["registry contract mismatch"],
    reportIf (strictInt (Json.get registry "version") ≠ some contractVersion)
      ["registry version must be the integer 1"],
    reportIf ((asObject capability).isNone) ["capability must be an object"],
    reportIf (!isText (Json.get held "id") Tuning.capability) ["capability id mismatch"],
    reportIf (!isFalse (Json.get held "advertised"))
      ["capability.advertised must be strictly false"],
    reportIf (!isBool (Json.get held "runtime_implemented"))
      ["capability.runtime_implemented must be a boolean, not authorization"]]

/-- One ceiling of the hard envelope. -/
def ceilingProblems (envelope : Fields) (key : String) (limit : ℚ) : Option (List Message) :=
  match Json.get envelope key with
  | .obj entry => reports [
      reportIf (!Json.equalNumber limit (Json.get entry "hard_upper"))
        ["hard_envelope.", key, ".hard_upper must be ", .repr (.float (.finite limit))],
      reportIf (!isNull (Json.get entry "commissioned_usable_lower_bound"))
        ["hard_envelope.", key, " must not invent a lower bound"]]
  | _ => some [["hard_envelope.", key, " must be an object"]]

def envelopeProblems (registry : Fields) : Option (List Message) :=
  let envelope := (asObject (Json.get registry "hard_envelope")).getD []
  reports [
    reportIf ((asObject (Json.get registry "hard_envelope")).isNone)
      ["hard_envelope must be an object"],
    reports (ceilings.map fun (key, limit) => ceilingProblems envelope key limit)]

/-- `_is_valid_logical_id`. -/
def isValidLogicalId (value : Json) : Bool := (asText value).any isLogicalId

/-- The ids of the groups that are objects. -/
def groupIds (groups : List Json) : List Json :=
  groups.filterMap fun group => (asObject group).map fun fields => Json.get fields "id"

def groupProblems (group : Json) : Option (List Message) :=
  match group with
  | .obj fields => reports [
      reportIf (!isValidLogicalId (Json.get fields "id"))
        ["invalid group id ", .repr (Json.get fields "id")],
      reportIf (!(Json.get fields "label").truthy)
        ["group ", .repr (Json.get fields "id"), " missing label"]]
  | _ => some [["group entries must be objects"]]

/-- `len(set(values)) != len(values)`. -/
def repeats : List Json → Option Bool
  | [] => some false
  | value :: values => do
    let _ ← hashed value
    let later ← repeats values
    pure (later || values.any fun other => Json.equal value other)

def groupsProblems (registry : Fields) : Option (List Message) :=
  let groups := (asList (Json.get registry "groups")).getD []
  reports [
    reportIf ((asList (Json.get registry "groups")).isNone) ["groups must be a list"],
    reports (groups.map groupProblems),
    (repeats (groupIds groups)).bind fun repeated => reportIf repeated ["duplicate group id"]]

/-- The flags every entry must have. -/
def entryFlags : List String :=
  ["accepts_edits", "activatable", "protected", "not_applicable", "live_verified",
    "exceeds_effective_ceiling"]

def typeProblems (pid : String) (entry : Fields) : Option (List Message) :=
  match Json.get entry "type" with
  | .str declared =>
    if declared ∈ declaredTypes then
      some ((valueErrors (Json.get entry "default") declared).map fun message : String =>
        [.text pid, ": ", .text message])
    else some [[pid, ": invalid type ", .repr (.str declared)]]
  | declared => some [[pid, ": invalid type ", .repr declared]]

/-- Whether and how the parameter may be changed. -/
def mutabilityProblems (pid : String) (entry : Fields) : Option (List Message) :=
  let edits := (Json.get entry "accepts_edits").truthy
  reports [
    reports (entryFlags.map fun flag =>
      reportIf (!isBool (Json.get entry flag)) [pid, ": ", flag, " must be a boolean"]),
    reportIf (!(isText (Json.get entry "mutability") "unverified" ||
        isText (Json.get entry "mutability") "restart_required"))
      [pid, ": mutability must be unverified/restart_required"],
    reportIf (!isText (Json.get entry "mutability_fallback") "restart_required")
      [pid, ": mutability_fallback must be restart_required"],
    reportIf (!isFalse (Json.get entry "live_verified"))
      [pid, ": slice 1 must not claim live verification"],
    reportIf (!isFalse (Json.get entry "activatable")) [pid, ": slice 1 must be non-activatable"],
    reportIf ((Json.get entry "protected").truthy && edits)
      [pid, ": protected parameters must not accept edits"],
    reportIf ((Json.get entry "not_applicable").truthy && edits)
      [pid, ": not-applicable parameters must not accept edits"],
    reportIf (isText (Json.get entry "type") "string" && edits)
      [pid, ": string values are not an editable wire type"],
    reportIf (!((asList (Json.get entry "restart_scopes")).any fun scopes =>
        scopes.all fun scope => (asText scope).isSome))
      [pid, ": restart_scopes must be a list of strings"]]

def ceilingRefProblems (index : Entries) (pid : String) (entry : Fields) :
    Option (List Message) :=
  let ref := Json.get entry "effective_ceiling_ref"
  if isNull ref then some []
  else (among (index.map Prod.fst) ref).bind fun known =>
    reportIf (!known) [pid, ": effective_ceiling_ref ", .repr ref, " is not a parameter"]

def boundsProblems (pid : String) (entry : Fields) : Option (List Message) :=
  match Json.get entry "bounds" with
  | .obj bounds =>
    let lower := Json.get bounds "lower"
    let upper := Json.get bounds "upper"
    reports [
      reportIf (!(["hard_source", "candidate_unverified", "unknown"].any fun status =>
          isText (Json.get bounds "status") status))
        [pid, ": invalid bounds status ", .repr (Json.get bounds "status")],
      reports (["lower_inclusive", "upper_inclusive"].map fun flag =>
        reportIf (!isBool (Json.get bounds flag)) [pid, ": bounds.", flag, " must be a boolean"]),
      reports ([("lower", lower), ("upper", upper)].map fun (side, value) =>
        reportIf (!isNull value && (realOf value).isNone)
          [pid, ": bounds.", side, " must be null or a finite number"]),
      reportIf ((realOf lower).any fun low => (realOf upper).any fun high => decide (high < low))
        [pid, ": bounds lower must not exceed upper"]]
  | _ => some [[pid, ": bounds must be an object"]]

/-- `1e-9`. -/
def defaultTolerance : Json := .float (.finite (4835703278458517 / 2 ^ 82))

def dependencyProblems (index : Entries) (pid : String) (dependency : Json) :
    Option (List Message) :=
  match dependency with
  | .obj fields =>
    let kind := Json.get fields "kind"
    let target := Json.get fields "target"
    reports [
      reportIf (!(isText kind "less_than_or_equal" || isText kind "sum_equals"))
        [pid, ": unknown dependency kind ", .repr kind],
      (among (index.map Prod.fst) target).bind fun known =>
        reportIf (!known) [pid, ": dependency target ", .repr target, " is not a parameter"],
      if isText kind "sum_equals" then reports [
        reportIf (realOf (Json.get fields "equals")).isNone
          [pid, ": sum_equals dependency needs a finite 'equals'"],
        reportIf (!(realOf (getOr fields "tolerance" defaultTolerance)).any fun tolerance =>
            decide (0 ≤ tolerance))
          [pid, ": sum_equals tolerance must be a finite non-negative number"]]
      else some []]
  | _ => some [[pid, ": dependency entries must be objects"]]

def dependenciesProblems (index : Entries) (pid : String) (entry : Fields) :
    Option (List Message) :=
  let dependencies := asList (Json.get entry "dependencies")
  reports [
    reportIf dependencies.isNone [pid, ": dependencies must be a list"],
    reports ((dependencies.getD []).map (dependencyProblems index pid))]

def sourceProblems (pid : String) (entry : Fields) : Option (List Message) :=
  match getOr entry "source" (.obj []) with
  | .obj source => reports [
      reportIf (!(Json.get source "node").truthy || !(Json.get source "key").truthy)
        [pid, ": incomplete source node/key"],
      reportIf (!safeRelativeSourcePath (Json.get source "file"))
        [pid, ": source file must be a safe relative path"]]
  | _ => some [[pid, ": source must be an object"]]

def evidenceProblems (pid : String) (entry : Fields) : Option (List Message) :=
  match getOr entry "evidence" (.obj []) with
  | .obj evidence =>
    if !(Json.get evidence "kind").truthy || !(Json.get evidence "detail").truthy then
      some [[pid, ": incomplete evidence"]]
    else reportIf (!isText (Json.get evidence "native_proof") "none")
      [pid, ": slice 1 evidence must state native_proof=none"]
  | _ => some [[pid, ": incomplete evidence"]]

/-- The entry of a valid logical id. -/
def fieldProblems (index : Entries) (groups : List Json) (pid : String) (entry : Fields) :
    Option (List Message) :=
  reports [
    reportIf (!groups.any fun group => Json.equal (Json.get entry "group") group)
      [pid, ": unknown group ", .repr (Json.get entry "group")],
    typeProblems pid entry,
    mutabilityProblems pid entry,
    ceilingRefProblems index pid entry,
    boundsProblems pid entry,
    dependenciesProblems index pid entry,
    sourceProblems pid entry,
    evidenceProblems pid entry]

def entryProblems (index : Entries) (groups : List Json) (entry : Json) :
    Option (List Message) :=
  match entry with
  | .obj fields => match Json.get fields "id" with
    | .str pid =>
      if isLogicalId pid then fieldProblems index groups pid fields
      else some [["invalid logical id ", .repr (.str pid)]]
    | pid => some [["invalid logical id ", .repr pid]]
  | _ => some [["parameter entries must be objects"]]

/-- A ceiling of the envelope is the upper bound of its parameter. -/
def ceilingEntryProblems (index : Entries) (envelope : Fields) (key : String) :
    Option (List Message) :=
  let fixed := match Json.get envelope key with
    | .obj ceiling => Json.get ceiling "hard_upper"
    | _ => .null
  match index.lookup key with
  | none => some [["missing ceiling parameter ", key]]
  | some entry =>
    reportIf (!((asObject (Json.get entry "bounds")).any fun bounds =>
        Json.equal (Json.get bounds "upper") fixed))
      [key, ": bounds.upper must equal the fixed hard upper"]

def parametersProblems (registry : Fields) : Option (List Message) :=
  let parameters := (asList (Json.get registry "parameters")).getD []
  let index := entriesOf parameters
  let groups := groupIds ((asList (Json.get registry "groups")).getD [])
  let envelope := (asObject (Json.get registry "hard_envelope")).getD []
  reports [
    reportIf (asList (Json.get registry "parameters")).isNone ["parameters must be a list"],
    reportIf (index.length ≠ parameters.length) ["duplicate or invalid parameter id"],
    reports (parameters.map (entryProblems index groups)),
    reports (ceilings.map fun (key, _) => ceilingEntryProblems index envelope key)]

/-- `check_registry`. -/
def checkRegistry (registry : Json) : Option (List Message) :=
  match registry with
  | .obj fields => reports [
      headProblems fields,
      envelopeProblems fields,
      groupsProblems fields,
      parametersProblems fields]
  | _ => some [["registry root must be an object"]]

/-! ### A clean catalog -/

variable {registry : Json} {parameters : List Json} {index : Entries} {groups : List Json}
  {pid : String} {entry : Fields}

/-- An entry of the index is one of the parameters, under its own id. -/
theorem mem_entriesOf {found : String × Fields} (h : found ∈ entriesOf parameters) :
    .obj found.2 ∈ parameters ∧ Json.get found.2 "id" = .str found.1 := by
  suffices key : ∀ (rest : List Json) (index : Entries), rest ⊆ parameters →
      (∀ found ∈ index, .obj found.2 ∈ parameters ∧ Json.get found.2 "id" = .str found.1) →
      ∀ found ∈ rest.foldl indexed index,
        .obj found.2 ∈ parameters ∧ Json.get found.2 "id" = .str found.1 by
    exact key parameters [] (List.Subset.refl _) (by simp) found h
  intro rest
  induction rest with
  | nil => exact fun index _ hindex => hindex
  | cons parameter rest ih =>
    intro index hsub hindex
    obtain ⟨hparameter, hrest⟩ := List.cons_subset.mp hsub
    apply ih _ hrest
    intro found hfound
    unfold indexed at hfound
    split at hfound
    · split at hfound
      · rename_i hid
        rcases mem_insertAt hfound with rfl | hold
        · exact ⟨hparameter, hid⟩
        · exact hindex found hold
      · exact hindex found hfound
    · exact hindex found hfound

/-- No check of an entry of a clean catalog finds anything. -/
theorem fieldProblems_of_clean (h : checkRegistry registry = some [])
    (hentry : (pid, entry) ∈ registryEntries registry) :
    isLogicalId pid = true ∧
      ∃ groups, fieldProblems (registryEntries registry) groups pid entry = some [] := by
  unfold checkRegistry at h
  split at h
  · rename_i fields
    simp only [reports_cons, reports_nil, and_true, parametersProblems, reportIf_eq_nil] at h
    obtain ⟨-, -, -, hlist, -, hentries, -⟩ := h
    cases hparameters : asList (Json.get fields "parameters") with
    | none => simp [hparameters] at hlist
    | some parameters =>
      have hindex : registryEntries (.obj fields) = entriesOf parameters := by
        simp only [registryEntries, parametersOf, hparameters]
      rw [hindex] at hentry ⊢
      obtain ⟨hmem, hid⟩ := mem_entriesOf hentry
      simp only [hparameters, Option.getD_some] at hentries
      have hchecked := reports_eq_nil.mp hentries _ (List.mem_map_of_mem hmem)
      simp only [entryProblems, hid] at hchecked
      split at hchecked
      · rename_i hlogical
        exact ⟨hlogical, _, hchecked⟩
      · cases hchecked
  · cases h

theorem isText_iff {value : Json} {text : String} :
    isText value text = true ↔ value = .str text := by
  cases value <;> simp [isText, asText]

theorem among_eq_true {keys : List String} {value : Json} (h : among keys value = some true) :
    ∃ text, value = .str text ∧ text ∈ keys := by
  cases value <;> simp_all [among, hashed, asText]

theorem isBool_eq {value : Json} (h : isBool value = true) : ∃ flag, value = .bool flag := by
  cases value <;> simp_all [isBool]

theorem isNull_eq {value : Json} (h : isNull value = true) : value = .null := by
  cases value <;> simp_all [isNull]

/-- A key that reads as something is there. -/
theorem lookup_of_get {fields : Fields} {key : String} {value : Json}
    (h : Json.get fields key = value) (hvalue : value ≠ .null) :
    Json.lookup key fields = some value := by
  unfold Json.get at h
  cases hlookup : Json.lookup key fields with
  | none => exact absurd (by rw [← h, hlookup, Option.getD_none]) hvalue
  | some found => rw [← h, hlookup, Option.getD_some]

theorem getOr_of_get {fields : Fields} {key : String} {value default : Json}
    (h : Json.get fields key = value) (hvalue : value ≠ .null) :
    getOr fields key default = value := by
  rw [getOr, lookup_of_get h hvalue, Option.getD_some]

/-- The bounds of an entry: no bound, or a finite number, on either side. -/
structure CleanBounds (bounds : Fields) : Prop where
  side : ∀ key ∈ ["lower", "upper"],
    Json.get bounds key = .null ∨ ∃ limit, realOf (Json.get bounds key) = some limit
  inclusive : ∀ key ∈ ["lower_inclusive", "upper_inclusive"],
    ∃ flag, Json.get bounds key = .bool flag

/-- A constraint between two parameters of the catalog. -/
structure CleanDependency (index : Entries) (fields : Fields) : Prop where
  kind : Json.get fields "kind" = .str "less_than_or_equal" ∨
    Json.get fields "kind" = .str "sum_equals"
  target : ∃ target, Json.get fields "target" = .str target ∧ target ∈ index.map Prod.fst
  sum : Json.get fields "kind" = .str "sum_equals" →
    ∃ total tolerance, realOf (Json.get fields "equals") = some total ∧
      realOf (getOr fields "tolerance" defaultTolerance) = some tolerance ∧ 0 ≤ tolerance

/-- What the checks of an entry leave of it. -/
structure CleanEntry (index : Entries) (entry : Fields) : Prop where
  typed : ∃ declared ∈ declaredTypes, Json.get entry "type" = .str declared ∧
    valueErrors (Json.get entry "default") declared = []
  flags : ∀ key ∈ entryFlags, ∃ flag, Json.get entry key = .bool flag
  editable : (Json.get entry "accepts_edits").truthy = true →
    Json.get entry "type" ≠ .str "string"
  bounds : ∃ bounds, Json.get entry "bounds" = .obj bounds ∧ CleanBounds bounds
  dependencies : ∃ dependencies, Json.get entry "dependencies" = .list dependencies ∧
    ∀ dependency ∈ dependencies, ∃ fields, dependency = .obj fields ∧ CleanDependency index fields

theorem cleanBounds (h : boundsProblems pid entry = some []) :
    ∃ bounds, Json.get entry "bounds" = .obj bounds ∧ CleanBounds bounds := by
  unfold boundsProblems at h
  split at h
  · rename_i bounds hbounds
    simp only [reports_cons, reports_nil, and_true, List.map_cons, List.map_nil,
      reportIf_eq_nil, Bool.not_eq_true, Bool.not_eq_false', Bool.and_eq_false_iff] at h
    obtain ⟨-, ⟨hlow, hhigh⟩, ⟨hlower, hupper⟩, -⟩ := h
    have hside : ∀ value : Json, (isNull value = true ∨ (realOf value).isNone = false) →
        value = .null ∨ ∃ limit, realOf value = some limit := by
      intro value hvalue
      rcases hvalue with hnull | hsome
      · exact Or.inl (isNull_eq hnull)
      · exact Or.inr (Option.isSome_iff_exists.mp (by simpa using hsome))
    refine ⟨bounds, hbounds, ⟨?_, ?_⟩⟩
    · intro key hkey
      simp only [List.mem_cons, List.not_mem_nil, or_false] at hkey
      rcases hkey with rfl | rfl
      · exact hside _ hlower
      · exact hside _ hupper
    · intro key hkey
      simp only [List.mem_cons, List.not_mem_nil, or_false] at hkey
      rcases hkey with rfl | rfl
      · exact isBool_eq hlow
      · exact isBool_eq hhigh
  · cases h

theorem cleanDependency {dependency : Json}
    (h : dependencyProblems index pid dependency = some []) :
    ∃ fields, dependency = .obj fields ∧ CleanDependency index fields := by
  unfold dependencyProblems at h
  split at h
  · rename_i fields
    simp only [reports_cons, reports_nil, and_true] at h
    obtain ⟨hkind, htarget, hsum⟩ := h
    refine ⟨fields, rfl, ⟨?_, ?_, ?_⟩⟩
    · simp only [reportIf_eq_nil, Bool.not_eq_true, Bool.not_eq_false', Bool.or_eq_true] at hkind
      exact hkind.imp isText_iff.mp isText_iff.mp
    · obtain ⟨known, hknown, hreport⟩ := Option.bind_eq_some_iff.mp htarget
      obtain rfl : known = true := by simpa using hreport
      exact among_eq_true hknown
    · intro hkind
      rw [if_pos (isText_iff.mpr hkind)] at hsum
      simp only [reports_cons, reports_nil, and_true, reportIf_eq_nil, Bool.not_eq_true,
        Bool.not_eq_false'] at hsum
      obtain ⟨hequals, htolerance⟩ := hsum
      obtain ⟨total, htotal⟩ := Option.isSome_iff_exists.mp (Option.isNone_eq_false_iff.mp hequals)
      obtain ⟨tolerance, hfound, hsign⟩ := (Option.any_eq_true _ _).mp htolerance
      exact ⟨total, tolerance, htotal, hfound, of_decide_eq_true hsign⟩
  · cases h

theorem cleanDependencies (h : dependenciesProblems index pid entry = some []) :
    ∃ dependencies, Json.get entry "dependencies" = .list dependencies ∧
      ∀ dependency ∈ dependencies,
        ∃ fields, dependency = .obj fields ∧ CleanDependency index fields := by
  simp only [dependenciesProblems, reports_cons, reports_nil, and_true, reportIf_eq_nil] at h
  obtain ⟨hlist, hall⟩ := h
  cases hfound : Json.get entry "dependencies" with
  | list dependencies =>
    refine ⟨dependencies, rfl, ?_⟩
    intro dependency hmem
    simp only [hfound, asList, Option.getD_some] at hall
    exact cleanDependency (reports_eq_nil.mp hall _ (List.mem_map_of_mem hmem))
  | null | bool value | int value | float value | str value | obj value =>
    simp [hfound, asList] at hlist

theorem cleanType (h : typeProblems pid entry = some []) :
    ∃ declared ∈ declaredTypes, Json.get entry "type" = .str declared ∧
      valueErrors (Json.get entry "default") declared = [] := by
  unfold typeProblems at h
  split at h
  · rename_i declared hdeclared
    split at h
    · rename_i hmem
      have hnone := List.map_eq_nil_iff.mp (Option.some.inj h)
      exact ⟨declared, hmem, hdeclared, hnone⟩
    · cases h
  · cases h

/-- Every entry of a clean catalog is clean. -/
theorem cleanEntry (h : checkRegistry registry = some [])
    (hentry : (pid, entry) ∈ registryEntries registry) :
    CleanEntry (registryEntries registry) entry := by
  obtain ⟨-, groups, hfields⟩ := fieldProblems_of_clean h hentry
  simp only [fieldProblems, reports_cons, reports_nil, and_true] at hfields
  obtain ⟨-, htype, hmutability, -, hbounds, hdependencies, -, -⟩ := hfields
  simp only [mutabilityProblems, reports_cons, reports_nil, and_true, reportIf_eq_nil]
    at hmutability
  obtain ⟨hflags, -, -, -, -, -, -, htext, -⟩ := hmutability
  constructor
  · exact cleanType htype
  · intro key hkey
    have hreport := reports_eq_nil.mp hflags _ (List.mem_map_of_mem hkey)
    simp only [reportIf_eq_nil, Bool.not_eq_true, Bool.not_eq_false'] at hreport
    exact isBool_eq hreport
  · intro hedits hstring
    exact htext (by rw [hedits, isText_iff.mpr hstring]; rfl)
  · exact cleanBounds hbounds
  · exact cleanDependencies hdependencies

/-- What a logical id has none of. -/
def Separator (c : Char) : Prop := c = '/' ∨ c = '\\' ∨ c = '\x00'

theorem not_separator {c : Char} (h : idCharacter c = true) : ¬Separator c := by
  rintro (rfl | rfl | rfl) <;> revert h <;> decide

/-- In the rest of a logical id no dot follows a dot. -/
theorem safe_of_logicalTail {fresh : Bool} {characters : List Char}
    (h : logicalTail fresh characters = true) :
    hasPathInjection.doubleDot characters = false ∧ ∀ c ∈ characters, ¬Separator c := by
  induction characters generalizing fresh with
  | nil => exact ⟨rfl, by simp⟩
  | cons c characters ih =>
    by_cases hdot : c = '.'
    · subst hdot
      simp only [logicalTail, Bool.and_eq_true] at h
      obtain ⟨hsafe, hplain⟩ := ih h.2
      refine ⟨?_, List.forall_mem_cons.mpr ⟨by simp [Separator], hplain⟩⟩
      cases characters with
      | nil => cases h.2
      | cons next rest =>
        have hnext : next ≠ '.' := by
          rintro rfl
          simp [logicalTail] at h
        rw [hasPathInjection.doubleDot]
        · exact hsafe
        · intro _ _ htail
          exact hnext (List.cons.inj htail).1
    · rw [logicalTail, Bool.and_eq_true] at h
      · obtain ⟨hsafe, hplain⟩ := ih h.2
        refine ⟨?_, List.forall_mem_cons.mpr ⟨not_separator h.1, hplain⟩⟩
        rw [hasPathInjection.doubleDot]
        · exact hsafe
        · intro _ hhead
          exact absurd hhead hdot
      · exact hdot

/-- A logical id is no fragment of a path. -/
theorem hasPathInjection_of_logicalId (h : isLogicalId pid = true) :
    hasPathInjection pid = false := by
  simp only [isLogicalId, Bool.and_eq_true] at h
  unfold hasPathInjection
  generalize pid.toList = characters at h ⊢
  cases characters with
  | nil => rfl
  | cons c characters =>
    simp only [logicalIdPattern, Bool.and_eq_true, decide_eq_true_eq] at h
    obtain ⟨-, ⟨hlow, hhigh⟩, htail⟩ := h
    have hfirst : idCharacter c = true := by
      simp only [idCharacter, hlow, hhigh, decide_true, Bool.and_self, Bool.true_or]
    obtain ⟨hsafe, hplain⟩ := safe_of_logicalTail htail
    have hdot : c ≠ '.' := by
      rintro rfl
      revert hlow
      decide
    have hnone : ∀ d, Separator d → (c :: characters).contains d = false := by
      intro d hd
      rw [Bool.eq_false_iff, ne_eq, List.contains_iff_mem]
      intro hmem
      rcases List.mem_cons.mp hmem with rfl | hrest
      · exact not_separator hfirst hd
      · exact hplain d hrest hd
    have hdouble : hasPathInjection.doubleDot (c :: characters) = false := by
      rw [hasPathInjection.doubleDot]
      · exact hsafe
      · intro _ hhead
        exact absurd hhead hdot
    simp only [hdouble, hnone '/' (Or.inl rfl), hnone '\\' (Or.inr (Or.inl rfl)),
      hnone '\x00' (Or.inr (Or.inr rfl)), Bool.or_self]

/-! ### Catalogs at hand -/

/-- An entry that passes its checks if its default and its bounds are of its type. -/
def plainEntry (pid declared : String) (default lower upper : Json) (dependencies : List Json) :
    Json :=
  .obj [("id", .str pid), ("group", .str "speed"), ("type", .str declared), ("default", default),
    ("accepts_edits", .bool true), ("activatable", .bool false), ("protected", .bool false),
    ("not_applicable", .bool false), ("live_verified", .bool false),
    ("exceeds_effective_ceiling", .bool false), ("mutability", .str "unverified"),
    ("mutability_fallback", .str "restart_required"), ("restart_scopes", .list []),
    ("bounds", .obj [("status", .str "unknown"), ("lower", lower), ("upper", upper),
      ("lower_inclusive", .bool true), ("upper_inclusive", .bool true)]),
    ("dependencies", .list dependencies),
    ("source", .obj [("node", .str "base"), ("key", .str pid), ("file", .str "base.yaml")]),
    ("evidence", .obj [("kind", .str "source"), ("detail", .str "reviewed"),
      ("native_proof", .str "none")])]

/-- A catalog of the two ceilings and the given parameters. -/
def plainRegistry (parameters : List Json) : Json :=
  let linear : Json := .float (.finite (5404319552844595 / 2 ^ 54))
  let angular : Json := .float (.finite (3152519739159347 / 2 ^ 52))
  .obj [("contract", .str contractName), ("version", .int 1),
    ("capability", .obj [("id", .str Tuning.capability), ("advertised", .bool false),
      ("runtime_implemented", .bool false)]),
    ("hard_envelope", .obj [("max_linear_m_s", .obj [("hard_upper", linear)]),
      ("max_angular_rad_s", .obj [("hard_upper", angular)])]),
    ("groups", .list [.obj [("id", .str "speed"), ("label", .str "Speed")]]),
    ("parameters", .list (plainEntry "max_linear_m_s" "number" (.int 0) .null linear [] ::
      plainEntry "max_angular_rad_s" "number" (.int 0) .null angular [] :: parameters))]

/-- A report that evaluates to nothing. -/
theorem report_eq_nil {α : Type} {report : Option (List α)}
    (h : report.elim false List.isEmpty = true) : report = some [] := by
  cases report with
  | none => cases h
  | some problems => exact congrArg some (List.isEmpty_iff.mp h)

end PatrolBot.Tuning.Contract
