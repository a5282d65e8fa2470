import PatrolBot.TuningBatch
import PatrolBot.TuningSoundness

/-!
# The server's filter as a mirror of the contract's validator

`tuning/validation.py` is to refuse what `contracts/validate_robot_tuning.py`
forbids.  Both read the same catalog; here it is clean, and the two checks of a
batch are compared.  They differ on a flag with bounds, which only the contract
compares as a number, and on a slower speed under a lowered ceiling, which the
server lets stand.
-/

namespace PatrolBot.Tuning.Contract

/-! ### The catalog as the server reads it -/

/-- `entry.get("type")`, of a declared type. -/
def typeOf (value : Json) : ParameterType :=
  if isText value "number" then .number
  else if isText value "integer" then .integer
  else if isText value "boolean" then .boolean
  else .string

/-- The text of a field, or none. -/
def textOf (value : Json) : String := (asText value).getD ""

def boundsOf (entry : Fields) : Bounds :=
  match Json.get entry "bounds" with
  | .obj bounds => {
      lower := finiteValue (Json.get bounds "lower")
      upper := finiteValue (Json.get bounds "upper")
      lowerInclusive := (getOr bounds "lower_inclusive" (.bool true)).truthy
      upperInclusive := (getOr bounds "upper_inclusive" (.bool true)).truthy }
  | _ => {}

def dependencyOf (fields : Fields) : Dependency where
  kind := textOf (Json.get fields "kind")
  target := textOf (Json.get fields "target")
  equals := finiteValue (Json.get fields "equals")
  tolerance := realOf (getOr fields "tolerance" defaultTolerance)

/-- The fields of an entry that the server's checks read. -/
def parameterOf (pid : String) (entry : Fields) : Parameter where
  id := pid
  label := textOf (Json.get entry "label")
  group := textOf (Json.get entry "group")
  type := typeOf (Json.get entry "type")
  valueKind := textOf (Json.get entry "value_kind")
  default := Json.get entry "default"
  acceptsEdits := (Json.get entry "accepts_edits").truthy
  isProtected := (Json.get entry "protected").truthy
  notApplicable := (Json.get entry "not_applicable").truthy
  bounds := boundsOf entry
  dependencies := ((asList (Json.get entry "dependencies")).getD []).filterMap fun dependency =>
    (asObject dependency).map dependencyOf

/-- The catalog the server's checks are given. -/
def catalogOf (registry : Json) : Registry :=
  (registryEntries registry).map fun found => parameterOf found.1 found.2

variable {registry payload baseValues context : Json} {index : Entries}
  {entry bounds fields : Fields} {pid path : String} {value change : Json} {x : ℚ}
  {parameters : List Json}

theorem insertAt_of_fresh {α : Type} {key : String} {value : α} {entries : List (String × α)}
    (h : key ∉ entries.map Prod.fst) : insertAt key value entries = entries ++ [(key, value)] := by
  induction entries with
  | nil => rfl
  | cons head entries ih =>
    rw [List.map_cons, List.mem_cons, not_or] at h
    rw [insertAt, if_neg (Ne.symm h.1), ih h.2, List.cons_append]

theorem nodup_entriesOf : ((entriesOf parameters).map Prod.fst).Nodup := by
  suffices key : ∀ index : Entries, (index.map Prod.fst).Nodup →
      ((parameters.foldl indexed index).map Prod.fst).Nodup by
    exact key [] List.nodup_nil
  induction parameters with
  | nil => exact fun index h => h
  | cons parameter parameters ih =>
    intro index h
    apply ih
    unfold indexed
    split
    · split
      · exact nodup_insertAt h
      · exact h
    · exact h

theorem nodup_registryEntries : ((registryEntries registry).map Prod.fst).Nodup := by
  unfold registryEntries
  split
  · exact nodup_entriesOf
  · exact List.nodup_nil

/-- The server's index of a catalog. -/
def indexOf (index : Entries) : Index :=
  index.map fun found => (found.1, parameterOf found.1 found.2)

/-- `registry_index` gives the server the contract's index. -/
theorem registryIndex_catalogOf :
    registryIndex (catalogOf registry) = indexOf (registryEntries registry) := by
  suffices key : ∀ (rest before : Entries), ((before ++ rest).map Prod.fst).Nodup →
      (rest.map fun found => parameterOf found.1 found.2).foldl
        (fun index entry => insertAt entry.id entry index) (indexOf before) =
        indexOf (before ++ rest) by
    exact key (registryEntries registry) [] nodup_registryEntries
  intro rest
  induction rest with
  | nil =>
    intro before _
    rw [List.append_nil]
    rfl
  | cons found rest ih =>
    intro before hnodup
    have hfresh : found.1 ∉ (indexOf before).map Prod.fst := by
      rw [List.map_append, List.nodup_append] at hnodup
      intro hmem
      have hkey : found.1 ∈ before.map Prod.fst := by
        simpa [indexOf] using hmem
      exact hnodup.2.2 found.1 hkey found.1 (by simp) rfl
    have hinsert : insertAt found.1 (parameterOf found.1 found.2) (indexOf before) =
        indexOf (before ++ [found]) := by
      rw [insertAt_of_fresh hfresh]
      simp [indexOf]
    rw [List.append_cons] at hnodup ⊢
    rw [← ih (before ++ [found]) hnodup, ← hinsert]
    rfl

theorem lookup_indexOf :
    (indexOf index).lookup pid = (index.lookup pid).map (parameterOf pid) := by
  induction index with
  | nil => rfl
  | cons found index ih =>
    obtain ⟨name, entry⟩ := found
    rw [indexOf, List.map_cons, List.lookup_cons, List.lookup_cons]
    cases hname : pid == name with
    | true =>
      obtain rfl := eq_of_beq hname
      rfl
    | false => exact ih

/-! ### A value, on the server -/

/-- An integer the server takes for a finite number. -/
def Small (value : Json) : Prop := ∀ n, value = .int n → n.natAbs ≤ maxInt

theorem finiteValue_of_small (h : Small value) : finiteValue value = realOf value := by
  cases value with
  | int n => exact if_pos (h n rfl)
  | float x => cases x <;> rfl
  | null | bool flag | str text | list items | obj fields => rfl

/-- The integers of an entry that the checks read. -/
structure SmallEntry (entry : Fields) : Prop where
  default : Small (Json.get entry "default")
  bounds : ∀ bounds, Json.get entry "bounds" = .obj bounds →
    Small (Json.get bounds "lower") ∧ Small (Json.get bounds "upper")
  equals : ∀ dependencies, Json.get entry "dependencies" = .list dependencies →
    ∀ fields, .obj fields ∈ dependencies → Small (Json.get fields "equals")

theorem require_respects {inclusive : Bool} {low high : ℚ} {first second : Message}
    {code : String} :
    (if inclusive then require (low ≤ high) first code else require (low < high) second code) =
      .ok () ↔ Respects inclusive low high := by
  cases inclusive <;> simp [Respects]

theorem server_checkBounds (hgiven : Json.get entry "bounds" = .obj bounds)
    (hbounds : CleanBounds bounds) (hsmall : SmallEntry entry) :
    Tuning.checkBounds (parameterOf pid entry) x = .ok () ↔ WithinBounds bounds x := by
  obtain ⟨low, hlow⟩ := hbounds.inclusive "lower_inclusive" (by simp)
  obtain ⟨high, hhigh⟩ := hbounds.inclusive "upper_inclusive" (by simp)
  obtain ⟨hsmalllow, hsmallhigh⟩ := hsmall.bounds bounds hgiven
  have hread : (parameterOf pid entry).bounds =
      ⟨realOf (Json.get bounds "lower"), realOf (Json.get bounds "upper"), low, high⟩ := by
    simp only [parameterOf, boundsOf, hgiven, finiteValue_of_small hsmalllow,
      finiteValue_of_small hsmallhigh, getOr_of_get hlow (by simp), getOr_of_get hhigh (by simp),
      Json.truthy]
  have hlower : checkLower (parameterOf pid entry) x = .ok () ↔
      ∀ limit, realOf (Json.get bounds "lower") = some limit →
        Respects (Json.get bounds "lower_inclusive").isTrue limit x := by
    rw [checkLower, hread, hlow]
    cases realOf (Json.get bounds "lower") with
    | none => simp
    | some limit => simpa [Json.isTrue] using require_respects
  have hupper : checkUpper (parameterOf pid entry) x = .ok () ↔
      ∀ limit, realOf (Json.get bounds "upper") = some limit →
        Respects (Json.get bounds "upper_inclusive").isTrue x limit := by
    rw [checkUpper, hread, hhigh]
    cases realOf (Json.get bounds "upper") with
    | none => simp
    | some limit => simpa [Json.isTrue] using require_respects
  simp only [Tuning.checkBounds, bind_eq_ok]
  constructor
  · intro h
    obtain ⟨_, hfirst, hsecond⟩ := h
    exact ⟨hlower.mp hfirst, hupper.mp hsecond⟩
  · intro h
    exact ⟨(), hlower.mpr h.lower, hupper.mpr h.upper⟩

/-- The value is inside the bounds of the entry. -/
def InBounds (entry : Fields) (value : Json) : Prop :=
  ∃ bounds x, Json.get entry "bounds" = .obj bounds ∧ magnitude value = some x ∧
    WithinBounds bounds x

theorem typeOf_iff {declared : String} (hdeclared : declared ∈ declaredTypes) :
    (typeOf (.str declared) = .number ↔ declared = "number") ∧
      (typeOf (.str declared) = .integer ↔ declared = "integer") ∧
      (typeOf (.str declared) = .boolean ↔ declared = "boolean") := by
  simp only [declaredTypes, List.mem_cons, List.not_mem_nil, or_false] at hdeclared
  rcases hdeclared with rfl | rfl | rfl | rfl <;> decide

/-- A number against an entry. -/
theorem server_checkNumber (hentry : CleanEntry index entry) (hsmall : SmallEntry entry)
    (hreal : finiteValue value = some x) (hnotbool : isBool value = false) :
    checkValue (parameterOf pid entry) value true = .ok () ↔
      HasType entry value ∧ InBounds entry value := by
  obtain ⟨declared, hmem, hdeclared, -⟩ := hentry.typed
  obtain ⟨bounds, hgiven, hbounds⟩ := hentry.bounds
  have hrealOf : realOf value = some x := by
    cases value with
    | int n =>
      simp only [finiteValue] at hreal
      split at hreal
      · exact hreal
      · cases hreal
    | float y => cases y <;> simp_all [finiteValue, realOf]
    | null | bool flag | str text | list items | obj fields => cases hreal
  have hinside : InBounds entry value ↔
      Tuning.checkBounds (parameterOf pid entry) x = .ok () := by
    rw [server_checkBounds hgiven hbounds hsmall]
    constructor
    · intro h
      obtain ⟨bounds', x', hgiven', hx', hwithin⟩ := h
      obtain rfl := Json.obj.inj (hgiven'.symm.trans hgiven)
      obtain rfl := Option.some.inj (hx'.symm.trans (magnitude_of_realOf hrealOf))
      exact hwithin
    · intro h
      exact ⟨bounds, x, hgiven, magnitude_of_realOf hrealOf, h⟩
  have htype : (parameterOf pid entry).type = typeOf (.str declared) := by
    simp only [parameterOf, hdeclared]
  have htyped : HasType entry value ↔ (typeOf (.str declared) = .number ∨
      typeOf (.str declared) = .integer) ∧
        (typeOf (.str declared) = .integer → (strictInt value).isSome = true) := by
    obtain ⟨hnumber, hinteger, -⟩ := typeOf_iff hmem
    rw [hnumber, hinteger]
    constructor
    · intro h
      cases h with
      | number hfound _ =>
        obtain rfl := Json.str.inj (hfound.symm.trans hdeclared)
        simp
      | integer hfound =>
        obtain rfl := Json.str.inj (hfound.symm.trans hdeclared)
        simp [strictInt]
      | boolean hfound => cases hnotbool
    · intro h
      obtain ⟨rfl | rfl, hint⟩ := h
      · exact .number hdeclared hrealOf
      · cases value with
        | int n => exact .integer hdeclared
        | null | bool flag | float y | str text | list items | obj fields =>
          simp [strictInt] at hint
  have hcheck : checkValue (parameterOf pid entry) value true = .ok () ↔
      ((typeOf (.str declared) = .number ∨ typeOf (.str declared) = .integer) ∧
        (typeOf (.str declared) = .integer → (strictInt value).isSome = true)) ∧
      Tuning.checkBounds (parameterOf pid entry) x = .ok () := by
    have hunfold : checkValue (parameterOf pid entry) value true =
        if typeOf (.str declared) = .number ∨ typeOf (.str declared) = .integer then do
          require (typeOf (.str declared) = .integer → (strictInt value).isSome)
            [(parameterOf pid entry).id, " expects an integer."] "bad_type"
          Tuning.checkBounds (parameterOf pid entry) x
        else .error ⟨[(parameterOf pid entry).id, " expects a ",
          (typeOf (.str declared)).text, "."], "bad_type"⟩ := by
      cases value with
      | bool flag => cases hnotbool
      | null | int n | float y | str text | list items | obj fields =>
        simp only [checkValue, hreal, htype, if_true]
    rw [hunfold]
    split
    · rename_i hnumeric
      simp [bind_eq_ok, hnumeric]
    · rename_i hother
      simp [hother]
  rw [hcheck, htyped, hinside]

/-- `_check_value` of the server passes the values of the declared type, a flag
    whatever its bounds. -/
theorem server_checkValue (hentry : CleanEntry index entry) (hsmall : SmallEntry entry)
    (hvalue : Small value) :
    checkValue (parameterOf pid entry) value true = .ok () ↔
      HasType entry value ∧ (isBool value = true ∨ InBounds entry value) := by
  obtain ⟨declared, hmem, hdeclared, -⟩ := hentry.typed
  cases hfinite : finiteValue value with
  | some x =>
    have hnotbool : isBool value = false := by
      cases value <;> simp_all [finiteValue, isBool]
    rw [server_checkNumber hentry hsmall hfinite hnotbool]
    simp [hnotbool]
  | none =>
    rw [finiteValue_of_small hvalue] at hfinite
    cases value with
    | bool flag =>
      have htype : (parameterOf pid entry).type = .boolean ↔ declared = "boolean" := by
        simp only [parameterOf, hdeclared]
        exact (typeOf_iff hmem).2.2
      simp only [checkValue, require_eq_ok, htype, isBool, true_or, and_true]
      constructor
      · rintro rfl
        exact .boolean hdeclared
      · intro h
        cases h with
        | number _ hreal => cases hreal
        | boolean hfound => exact Json.str.inj (hdeclared.symm.trans hfound)
    | int n => cases hfinite
    | null | float y | str text | list items | obj fields =>
      constructor
      · intro h
        exfalso
        have hnone : finiteValue _ = none := (finiteValue_of_small hvalue).trans hfinite
        simp only [checkValue, hnone] at h
        split at h
        · cases h
        · cases h
      · intro h
        exfalso
        obtain ⟨htyped, -⟩ := h
        cases htyped with
        | number _ hreal =>
          rw [hfinite] at hreal
          cases hreal

/-! ### A batch, on the server -/

/-- What the server lets a change set: as the catalog permits, but for the
    bounds of a flag. -/
structure LetThrough (entry : Fields) (value : Json) : Prop where
  unprotected : Json.get entry "protected" = .bool false
  applicable : Json.get entry "not_applicable" = .bool false
  editable : Json.get entry "accepts_edits" = .bool true
  typed : HasType entry value
  bounded : isBool value = true ∨ InBounds entry value

theorem permitted_iff : Permitted entry value ↔ LetThrough entry value ∧ InBounds entry value := by
  constructor
  · intro h
    exact ⟨⟨h.unprotected, h.applicable, h.editable, h.typed, Or.inr h.bounded⟩, h.bounded⟩
  · intro h
    obtain ⟨hlet, hbounded⟩ := h
    exact ⟨hlet.unprotected, hlet.applicable, hlet.editable, hlet.typed, hbounded⟩

/-- An object of exactly an id and a value. -/
def IsChange (change : Json) : Prop :=
  ∃ fields, change = .obj fields ∧ Json.hasExactly fields ["id", "value"] = true ∧
    Small (Json.get fields "value")

theorem flag_eq {flag : Bool} (h : value = .bool flag) :
    (value = .bool true ↔ value.truthy = true) ∧ (value = .bool false ↔ ¬value.truthy = true) := by
  subst h
  cases flag <;> simp [Json.truthy]

/-- `_check_change` of the server. -/
theorem server_checkChange (hindex : CleanIndex index)
    (hsmall : ∀ found ∈ index, SmallEntry found.2) (hchange : IsChange change)
    {pair : String × Json} :
    Tuning.checkChange change (indexOf index) = .ok pair ↔
      namedChange change = some pair ∧ ∃ entry, hasPathInjection pair.1 = false ∧
        index.lookup pair.1 = some entry ∧ LetThrough entry pair.2 := by
  obtain ⟨fields, rfl, hexact, hvalue⟩ := hchange
  simp only [Json.hasExactly, Bool.and_eq_true, List.all_eq_true] at hexact
  obtain ⟨honly, hboth⟩ := hexact
  have hextra : ((fields.map Prod.fst).filter fun key => !(["id", "value"].contains key)) = [] := by
    rw [List.filter_eq_nil_iff]
    intro key hkey
    obtain ⟨field, hfield, rfl⟩ := List.mem_map.mp hkey
    simpa [or_iff_not_imp_left] using honly field hfield
  obtain ⟨given, hgiven⟩ := Option.isSome_iff_exists.mp (hboth "value" (by simp))
  have hget : Json.get fields "value" = given := by rw [Json.get, hgiven, Option.getD_some]
  rw [hget] at hvalue
  cases hid : Json.get fields "id" with
  | str pid =>
    simp only [Tuning.checkChange, hextra, hid, hgiven, namedChange, hget, lookup_indexOf]
    cases hentry : index.lookup pid with
    | none =>
      constructor
      · intro h
        simp [bind_eq_ok] at h
      · intro h
        obtain ⟨hpair, entry, -, hfound, -⟩ := h
        obtain rfl := Option.some.inj hpair
        rw [hentry] at hfound
        cases hfound
    | some entry =>
      have hclean := hindex pid entry (mem_of_lookup hentry)
      have hcheck := @server_checkValue index entry pid given hclean
        (hsmall (pid, entry) (mem_of_lookup hentry)) hvalue
      obtain ⟨locked, hlocked⟩ := hclean.flags "protected" (by decide)
      obtain ⟨foreign, hforeign⟩ := hclean.flags "not_applicable" (by decide)
      obtain ⟨edits, hedits⟩ := hclean.flags "accepts_edits" (by decide)
      simp only [Option.map_some, bind_eq_ok, require_eq_ok, pure, Except.pure, Except.ok.injEq]
      constructor
      · intro h
        obtain ⟨_, -, _, hplain, _, hunlocked, _, hnative, _, hopen, _, -, _, hvalid, hpair⟩ := h
        obtain ⟨htyped, hbounded⟩ := hcheck.mp hvalid
        subst hpair
        exact ⟨rfl, entry, by simpa using hplain, hentry,
          ⟨(flag_eq hlocked).2.mpr hunlocked, (flag_eq hforeign).2.mpr hnative,
            (flag_eq hedits).1.mpr hopen, htyped, hbounded⟩⟩
      · intro h
        obtain ⟨hpair, found, hplain, hfound, hlet⟩ := h
        obtain rfl := Option.some.inj hpair
        obtain rfl := Option.some.inj (hentry.symm.trans hfound)
        have hnottext : notText given = true := by
          cases hlet.typed with
          | number _ hreal => cases given <;> simp_all [realOf, notText]
          | integer _ => rfl
          | boolean _ => rfl
        exact ⟨(), trivial, (), by simpa using hplain, (),
          (flag_eq hlocked).2.mp hlet.unprotected, (), (flag_eq hforeign).2.mp hlet.applicable,
          (), (flag_eq hedits).1.mp hlet.editable, (), hnottext, (),
          hcheck.mpr ⟨hlet.typed, hlet.bounded⟩, rfl⟩
  | null | bool flag | int n | float y | list items | obj inner =>
    simp [Tuning.checkChange, hid, namedChange, bind_eq_ok]

variable {changes : List Json} {before resolved named : Values}

/-- The loop over the changes, on the server. -/
theorem server_checkChanges (hindex : CleanIndex index)
    (hsmall : ∀ found ∈ index, SmallEntry found.2)
    (hchanges : ∀ change ∈ changes, IsChange change) :
    checkChanges (indexOf index) changes before = .ok resolved ↔
      ∃ named, changes.map namedChange = named.map some ∧ resolved = before ++ named ∧
        (named.map Prod.fst).Nodup ∧
        ∀ change ∈ named, change.1 ∉ before.map Prod.fst ∧
          ∃ entry, hasPathInjection change.1 = false ∧ index.lookup change.1 = some entry ∧
            LetThrough entry change.2 := by
  induction changes generalizing before with
  | nil =>
    simp only [checkChanges, Except.ok.injEq, List.map_nil]
    constructor
    · rintro rfl
      exact ⟨[], rfl, (List.append_nil _).symm, List.nodup_nil, by simp⟩
    · intro h
      obtain ⟨named, hnamed, hresolved, -⟩ := h
      obtain rfl : named = [] := List.map_eq_nil_iff.mp hnamed.symm
      rw [hresolved, List.append_nil]
  | cons change changes ih =>
    have hfirst := hchanges change List.mem_cons_self
    have hrest : ∀ change ∈ changes, IsChange change :=
      fun change hmem => hchanges change (List.mem_cons_of_mem _ hmem)
    simp only [checkChanges, bind_eq_ok, require_eq_ok]
    constructor
    · intro h
      obtain ⟨pair, hpair, _, hfresh, h⟩ := h
      obtain ⟨hname, hentry⟩ := (server_checkChange hindex hsmall hfirst).mp hpair
      obtain ⟨named, hnamed, hresolved, hdistinct, hall⟩ := (ih hrest).mp h
      refine ⟨pair :: named, ?_, ?_, ?_, ?_⟩
      · rw [List.map_cons, List.map_cons, hname, hnamed]
      · exact hresolved.trans (List.append_assoc before [pair] named)
      · rw [List.map_cons, List.nodup_cons]
        refine ⟨?_, hdistinct⟩
        intro hmem
        obtain ⟨later, hlater, hsame⟩ := List.mem_map.mp hmem
        apply (hall later hlater).1
        simp [hsame]
      · intro later hlater
        rcases List.mem_cons.mp hlater with rfl | hlater
        · exact ⟨hfresh, hentry⟩
        · obtain ⟨hapart, hfound⟩ := hall later hlater
          refine ⟨?_, hfound⟩
          intro hmem
          apply hapart
          rw [List.map_append]
          exact List.mem_append_left _ hmem
    · intro h
      obtain ⟨named, hnamed, hresolved, hdistinct, hall⟩ := h
      cases named with
      | nil => cases hnamed
      | cons pair named =>
        obtain ⟨hname, hnames⟩ := List.cons_eq_cons.mp hnamed
        obtain ⟨hapart, hentry⟩ := hall pair List.mem_cons_self
        rw [List.map_cons, List.nodup_cons] at hdistinct
        have hsplit : resolved = before ++ [pair] ++ named :=
          hresolved.trans (List.append_assoc before [pair] named).symm
        refine ⟨pair, (server_checkChange hindex hsmall hfirst).mpr ⟨hname, hentry⟩, (), hapart,
          (ih hrest).mpr ⟨named, hnames, hsplit, hdistinct.2, ?_⟩⟩
        intro later hlater
        obtain ⟨hlast, hfound⟩ := hall later (List.mem_cons_of_mem _ hlater)
        refine ⟨?_, hfound⟩
        intro hmem
        rw [List.map_append, List.mem_append] at hmem
        rcases hmem with hold | hsame
        · exact hlast hold
        · apply hdistinct.1
          have heq : later.1 = pair.1 := by simpa using hsame
          rw [← heq]
          exact List.mem_map_of_mem hlater

/-! ### Constraints, on the server -/

/-- An edge as the server reads it. -/
def serverEdge (edge : Edge) : Tuning.Edge :=
  ⟨edge.source, textOf edge.target, textOf edge.kind, finiteValue edge.equals,
    (realOf edge.tolerance).getD (1 / 1000000000)⟩

/-- The edge of a dependency the server reads. -/
def serverEdgeOf (pid : String) (dependency : Dependency) : Tuning.Edge :=
  ⟨pid, dependency.target, dependency.kind, dependency.equals,
    dependency.tolerance.getD (1 / 1000000000)⟩

theorem reports_cons_eq_some {α : Type} {check : Option (List α)} {checks : List (Option (List α))}
    {all : List α} (h : reports (check :: checks) = some all) :
    ∃ found later, check = some found ∧ reports checks = some later ∧ all = found ++ later := by
  obtain ⟨found, hfound, h⟩ := Option.bind_eq_some_iff.mp h
  obtain ⟨later, hlater, h⟩ := Option.bind_eq_some_iff.mp h
  exact ⟨found, later, hfound, hlater, (Option.some.inj h).symm⟩

theorem server_edgeOf {edges : List Edge} (h : edgeOf pid (.obj fields) = some edges) :
    edges.map serverEdge = [serverEdgeOf pid (dependencyOf fields)] := by
  obtain ⟨target, htarget, h⟩ := Option.bind_eq_some_iff.mp h
  obtain ⟨kind, hkind, h⟩ := Option.bind_eq_some_iff.mp h
  obtain rfl := Option.some.inj h
  simp only [serverEdge, serverEdgeOf, dependencyOf, Json.get, htarget, hkind, Option.getD_some,
    List.map_cons, List.map_nil]

theorem server_entryEdges {edges : List Edge} (hentry : CleanEntry index entry)
    (h : entryEdges pid entry = some edges) :
    edges.map serverEdge = (parameterOf pid entry).dependencies.map (serverEdgeOf pid) := by
  obtain ⟨dependencies, hgiven, hall⟩ := hentry.dependencies
  have hread : (parameterOf pid entry).dependencies =
      dependencies.filterMap fun dependency => (asObject dependency).map dependencyOf := by
    simp only [parameterOf, hgiven, asList, Option.getD_some]
  simp only [entryEdges, getOr_of_get hgiven (by simp)] at h
  rw [hread]
  clear hread hgiven
  induction dependencies generalizing edges with
  | nil =>
    obtain rfl := Option.some.inj h
    rfl
  | cons dependency dependencies ih =>
    obtain ⟨fields, rfl, -⟩ := hall dependency List.mem_cons_self
    obtain ⟨found, later, hfound, hlater, rfl⟩ := reports_cons_eq_some h
    have hrest := ih (fun other hother => hall other (List.mem_cons_of_mem _ hother)) hlater
    rw [List.map_append, server_edgeOf hfound, hrest]
    rfl

/-- The server has the edges of the contract. -/
theorem server_dependencyEdges {edges : List Edge} (hindex : CleanIndex index)
    (h : dependencyEdges index = some edges) :
    Tuning.dependencyEdges (indexOf index) = edges.map serverEdge := by
  suffices key : ∀ (rest : Entries) (edges : List Edge),
      (∀ found ∈ rest, CleanEntry index found.2) →
      dependencyEdges rest = some edges →
      Tuning.dependencyEdges (indexOf rest) = edges.map serverEdge by
    exact key index edges (fun found hfound => hindex found.1 found.2 hfound) h
  intro rest
  induction rest with
  | nil =>
    intro edges _ hedges
    obtain rfl := Option.some.inj hedges
    rfl
  | cons found rest ih =>
    intro edges hall hedges
    obtain ⟨first, later, hfirst, hlater, rfl⟩ := reports_cons_eq_some hedges
    have hrest := ih later (fun other hother => hall other (List.mem_cons_of_mem _ hother)) hlater
    rw [List.map_append, ← hrest, server_entryEdges (hall found List.mem_cons_self) hfirst]
    rfl

/-- The source is a speed that the batch leaves alone. -/
def Spared (index : Entries) (named : Values) (pid : String) : Prop :=
  pid ∉ named.map Prod.fst ∧ ∃ entry, index.lookup pid = some entry ∧
    speedKind (textOf (Json.get entry "value_kind")) = true

/-- A spared speed is over its ceiling. -/
def Edge.Excused (edge : Edge) (index : Entries) (named : Values) (value : String → Json) : Prop :=
  edge.kind = .str "less_than_or_equal" ∧ Spared index named edge.source ∧
    ∃ target low high, edge.target = .str target ∧ realOf (value edge.source) = some low ∧
      realOf (value target) = some high ∧ high < low

theorem server_resolvedValue :
    Tuning.resolvedValue pid named (indexOf index) = merged index [] named pid := by
  unfold Tuning.resolvedValue merged valueOf
  rw [lookup_indexOf]
  cases named.lookup pid with
  | some value => rfl
  | none => cases index.lookup pid <;> rfl

theorem small_merged (hsmall : ∀ found ∈ index, SmallEntry found.2)
    (hnamed : ∀ change ∈ named, Small change.2) : Small (merged index [] named pid) := by
  unfold merged valueOf
  cases hvalue : named.lookup pid with
  | some value => exact hnamed _ (mem_of_lookup hvalue)
  | none =>
    cases hentry : index.lookup pid with
    | some entry => exact (hsmall _ (mem_of_lookup hentry)).default
    | none =>
      intro n hn
      cases hn

theorem server_exempt {edge : Edge} :
    (serverEdge edge).exempt (indexOf index) named = true ↔ Spared index named edge.source := by
  have hspeed : ((indexOf index).lookup edge.source).any (fun entry => speedKind entry.valueKind) =
      true ↔ ∃ entry, index.lookup edge.source = some entry ∧
        speedKind (textOf (Json.get entry "value_kind")) = true := by
    rw [lookup_indexOf]
    cases index.lookup edge.source with
    | none => simp
    | some entry => simp [parameterOf]
  unfold Tuning.Edge.exempt
  rw [Bool.and_eq_true, decide_eq_true_iff]
  exact and_congr_right fun _ => hspeed

theorem sumHolds_exact {edge : Edge} {left right : Json} {low high total tolerance : ℚ}
    (hlow : realOf left = some low) (hhigh : realOf right = some high)
    (htotal : realOf edge.equals = some total)
    (htolerance : realOf edge.tolerance = some tolerance) :
    SumHolds .exact edge left right ↔ |low + high - total| ≤ tolerance := by
  obtain ⟨first, hfirst, hl⟩ := operand_of_realOf hlow
  obtain ⟨second, hsecond, hr⟩ := operand_of_realOf hhigh
  obtain ⟨sum, hsum, ht⟩ := operand_of_realOf htotal
  obtain ⟨allowed, hallowed, hd⟩ := operand_of_realOf htolerance
  have hexceeds := Arithmetic.exceeds_exact hl hr ht hd
  constructor
  · intro h
    obtain ⟨first', second', sum', allowed', hfirst', hsecond', hsum', hallowed', hfar⟩ := h
    obtain rfl := Option.some.inj (hfirst.symm.trans hfirst')
    obtain rfl := Option.some.inj (hsecond.symm.trans hsecond')
    obtain rfl := Option.some.inj (hsum.symm.trans hsum')
    obtain rfl := Option.some.inj (hallowed.symm.trans hallowed')
    rw [hexceeds] at hfar
    exact not_lt.mp (of_decide_eq_false (Option.some.inj hfar))
  · intro h
    refine ⟨first, second, sum, allowed, hfirst, hsecond, hsum, hallowed, ?_⟩
    rw [hexceeds, decide_eq_false (not_lt.mpr h)]

theorem small_entryEdges (hsource : pid ∈ index.map Prod.fst) (hentry : CleanEntry index entry)
    (hsmall : SmallEntry entry) :
    ∃ edges, entryEdges pid entry = some edges ∧ ∀ edge ∈ edges, Small edge.equals := by
  obtain ⟨dependencies, hgiven, hclean⟩ := hentry.dependencies
  rw [entryEdges, getOr_of_get hgiven (by simp)]
  apply exists_reports
  intro check hcheck
  obtain ⟨dependency, hdependency, rfl⟩ := List.mem_map.mp hcheck
  obtain ⟨fields, rfl, hfields⟩ := hclean dependency hdependency
  obtain ⟨edge, hedge, -⟩ := edgeOf_clean hsource hfields
  refine ⟨[edge], hedge, ?_⟩
  intro other hother
  obtain rfl := List.mem_singleton.mp hother
  obtain ⟨target, -, hedge⟩ := Option.bind_eq_some_iff.mp hedge
  obtain ⟨kind, -, hedge⟩ := Option.bind_eq_some_iff.mp hedge
  obtain rfl := List.singleton_inj.mp (Option.some.inj hedge)
  exact hsmall.equals dependencies hgiven fields hdependency

theorem small_equals {edges : List Edge} (hindex : CleanIndex index)
    (hsmall : ∀ found ∈ index, SmallEntry found.2) (h : dependencyEdges index = some edges) :
    ∀ edge ∈ edges, Small edge.equals := by
  obtain ⟨edges', hedges', hall⟩ : ∃ edges', dependencyEdges index = some edges' ∧
      ∀ edge ∈ edges', Small edge.equals := by
    apply exists_reports
    intro check hcheck
    obtain ⟨found, hfound, rfl⟩ := List.mem_map.mp hcheck
    exact small_entryEdges (List.mem_map_of_mem hfound) (hindex found.1 found.2 hfound)
      (hsmall found hfound)
  obtain rfl := Option.some.inj (h.symm.trans hedges')
  exact hall

/-- On the server an edge of the contract holds, or is excused. -/
theorem server_holds {edge : Edge} (hedge : CleanEdge index edge) (hequals : Small edge.equals)
    (hsmall : ∀ found ∈ index, SmallEntry found.2)
    (hnamed : ∀ change ∈ named, Small change.2) :
    (serverEdge edge).HoldsAtDefaults (indexOf index) named ↔
      edge.Holds .exact (merged index [] named) ∨
        edge.Excused index named (merged index [] named) := by
  obtain ⟨target, htarget, -⟩ := hedge.target
  have hread : ∀ pid, finiteValue (Tuning.resolvedValue pid named (indexOf index)) =
      realOf (merged index [] named pid) := by
    intro pid
    rw [server_resolvedValue]
    exact finiteValue_of_small (small_merged hsmall hnamed)
  have hend : (serverEdge edge).target = target := by
    simp [serverEdge, htarget, textOf, asText]
  unfold Tuning.Edge.HoldsAtDefaults Tuning.Edge.Broken
  rw [hread, hread, hend]
  rcases hedge.kind with hkind | hkind
  · have hserver : (serverEdge edge).kind = "less_than_or_equal" := by
      simp [serverEdge, hkind, textOf, asText]
    have hsum : ¬edge.kind = .str "sum_equals" := by simp [hkind]
    constructor
    · intro h
      obtain ⟨low, high, hlow, hhigh, hnot⟩ := h
      by_cases hlt : high < low
      · have hexempt : (serverEdge edge).exempt (indexOf index) named = true := by
          by_contra hother
          exact hnot (Or.inl ⟨hserver, hlt, Bool.eq_false_iff.mpr hother⟩)
        exact Or.inr ⟨hkind, server_exempt.mp hexempt, target, low, high, htarget, hlow, hhigh, hlt⟩
      · exact Or.inl ⟨target, htarget, ⟨low, high, hlow, hhigh, fun _ => not_lt.mp hlt⟩,
          fun h => absurd h hsum⟩
    · intro h
      have hnosum : ¬(serverEdge edge).kind = "sum_equals" := by simp [hserver]
      rcases h with hholds | hexcused
      · obtain ⟨target', htarget', hbetween⟩ := hholds
        obtain rfl := Json.str.inj (htarget'.symm.trans htarget)
        obtain ⟨low, high, hlow, hhigh, hle⟩ := hbetween.numbers
        refine ⟨low, high, hlow, hhigh, ?_⟩
        rintro (⟨-, hlt, -⟩ | ⟨hother, -⟩)
        · exact absurd hlt (not_lt.mpr (hle hkind))
        · exact hnosum hother
      · obtain ⟨-, hspared, target', low, high, htarget', hlow, hhigh, -⟩ := hexcused
        obtain rfl := Json.str.inj (htarget'.symm.trans htarget)
        refine ⟨low, high, hlow, hhigh, ?_⟩
        rintro (⟨-, -, hexempt⟩ | ⟨hother, -⟩)
        · rw [server_exempt.mpr hspared] at hexempt
          cases hexempt
        · exact hnosum hother
  · have hserver : (serverEdge edge).kind = "sum_equals" := by
      simp [serverEdge, hkind, textOf, asText]
    have hnole : ¬(serverEdge edge).kind = "less_than_or_equal" := by simp [hserver]
    have hnole' : ¬edge.kind = .str "less_than_or_equal" := by simp [hkind]
    obtain ⟨total, tolerance, htotal, htolerance, -⟩ := hedge.sum hkind
    have hserverequals : (serverEdge edge).equals = some total :=
      (finiteValue_of_small hequals).trans htotal
    have hservertolerance : (serverEdge edge).tolerance = tolerance := by
      simp [serverEdge, htolerance]
    constructor
    · intro h
      obtain ⟨low, high, hlow, hhigh, hnot⟩ := h
      refine Or.inl ⟨target, htarget, ⟨low, high, hlow, hhigh, fun h => absurd h hnole'⟩, ?_⟩
      intro _
      apply (sumHolds_exact hlow hhigh htotal htolerance).mpr
      by_contra hfar
      apply hnot
      refine Or.inr ⟨hserver, ?_⟩
      rintro _ hsum
      obtain rfl := Option.some.inj (hserverequals.symm.trans hsum)
      rw [hservertolerance]
      exact not_le.mp hfar
    · intro h
      rcases h with hholds | hexcused
      · obtain ⟨target', htarget', hbetween⟩ := hholds
        obtain rfl := Json.str.inj (htarget'.symm.trans htarget)
        obtain ⟨low, high, hlow, hhigh, -⟩ := hbetween.numbers
        have hnear := (sumHolds_exact hlow hhigh htotal htolerance).mp (hbetween.sum hkind)
        refine ⟨low, high, hlow, hhigh, ?_⟩
        rintro (⟨hother, -⟩ | ⟨-, hfar⟩)
        · exact hnole hother
        · have hexceeded := hfar total hserverequals
          rw [hservertolerance] at hexceeded
          exact absurd hnear (not_le.mpr hexceeded)
      · exact absurd hexcused.1 hnole'

/-! ### The two verdicts -/

/-- A list of changes as a save may carry it. -/
structure IsBatch (changes : List Json) : Prop where
  each : ∀ change ∈ changes, IsChange change
  length : 1 ≤ changes.length ∧ changes.length ≤ maxChanges

/-- The server's change and dependency checks accept the batch. -/
def ServerAccepts (registry : Json) (changes : List Json) : Prop :=
  ∃ resolved, checkChanges (registryIndex (catalogOf registry)) changes [] = .ok resolved ∧
    checkDependencies (registryIndex (catalogOf registry)) resolved = .ok ()

/-- The contract's checks of the batch find nothing, but for excused edges. -/
def ContractAccepts (registry : Json) (changes : List Json) : Prop :=
  ∃ batch edges named, batchRun (registryEntries registry) ⟨[], [], []⟩ 0 changes = some batch ∧
    batch.errors = [] ∧ dependencyEdges (registryEntries registry) = some edges ∧
    changes.map namedChange = named.map some ∧
    ∀ edge ∈ edges,
      edgeErrors .exact batch.changed (registryEntries registry) batch.resolved edge = some [] ∨
        edge.Excused (registryEntries registry) named fun pid =>
          valueOf pid batch.resolved (registryEntries registry)

/-- What a batch that passes has in common on both sides. -/
structure Passes (permits : Fields → Json → Prop) (index : Entries) (edges : List Edge)
    (named : Values) : Prop where
  distinct : (named.map Prod.fst).Nodup
  permitted : ∀ change ∈ named, ∃ entry, hasPathInjection change.1 = false ∧
    index.lookup change.1 = some entry ∧ permits entry change.2
  holds : ∀ edge ∈ edges, edge.Touches (named.map Prod.fst) →
    edge.Holds .exact (merged index [] named) ∨ edge.Excused index named (merged index [] named)

variable {edges : List Edge}

theorem small_named (hchanges : ∀ change ∈ changes, IsChange change)
    (hnamed : changes.map namedChange = named.map some) :
    ∀ change ∈ named, Small change.2 := by
  intro made hmade
  have hmem : some made ∈ changes.map namedChange := hnamed ▸ List.mem_map_of_mem hmade
  obtain ⟨change, hchange, hname⟩ := List.mem_map.mp hmem
  obtain ⟨fields, rfl, -, hsmall⟩ := hchanges change hchange
  simp only [namedChange] at hname
  split at hname
  · obtain rfl := Option.some.inj hname
    exact hsmall
  · cases hname

theorem server_touched {edge : Edge} (hedge : CleanEdge index edge) :
    (serverEdge edge).touched named = true ↔ edge.Touches (named.map Prod.fst) := by
  obtain ⟨target, htarget, -⟩ := hedge.target
  simp only [Tuning.Edge.touched, serverEdge, htarget, textOf, asText, Option.getD_some,
    Bool.or_eq_true, List.contains_iff_mem, Edge.Touches, Json.str.injEq]
  simp

theorem checkDependencies_ok {serverIndex : Index} :
    checkDependencies serverIndex named = .ok () ↔
      ∀ edge ∈ Tuning.dependencyEdges serverIndex, edge.touched named = true →
        edge.HoldsAtDefaults serverIndex named := by
  have hnone : checkDependencies serverIndex named = .ok () ↔
      (((Tuning.dependencyEdges serverIndex).filter (·.touched named)).findSome? fun edge =>
        edgeProblem edge serverIndex named) = none := by
    unfold checkDependencies
    split <;> simp_all
  rw [hnone, List.findSome?_eq_none_iff]
  constructor
  · intro h edge hedge htouched
    exact edgeProblem_eq_none.mp (h edge (List.mem_filter.mpr ⟨hedge, htouched⟩))
  · intro h edge hedge
    obtain ⟨hmem, htouched⟩ := List.mem_filter.mp hedge
    exact edgeProblem_eq_none.mpr (h edge hmem htouched)

theorem serverAccepts_iff (hindex : CleanIndex (registryEntries registry))
    (hsmall : ∀ found ∈ registryEntries registry, SmallEntry found.2)
    (hedges : dependencyEdges (registryEntries registry) = some edges)
    (hclean : ∀ edge ∈ edges, CleanEdge (registryEntries registry) edge)
    (hchanges : ∀ change ∈ changes, IsChange change) :
    ServerAccepts registry changes ↔ ∃ named, changes.map namedChange = named.map some ∧
      Passes LetThrough (registryEntries registry) edges named := by
  have hequals := small_equals hindex hsmall hedges
  have hholds : ∀ named, changes.map namedChange = named.map some →
      (checkDependencies (indexOf (registryEntries registry)) named = .ok () ↔
        ∀ edge ∈ edges, edge.Touches (named.map Prod.fst) →
          edge.Holds .exact (merged (registryEntries registry) [] named) ∨
            edge.Excused (registryEntries registry) named
              (merged (registryEntries registry) [] named)) := by
    intro named hnamed
    rw [checkDependencies_ok, server_dependencyEdges hindex hedges, List.forall_mem_map]
    apply forall₂_congr
    intro edge hedge
    rw [server_touched (hclean edge hedge), server_holds (hclean edge hedge) (hequals edge hedge)
      hsmall (small_named hchanges hnamed)]
  unfold ServerAccepts
  rw [registryIndex_catalogOf]
  constructor
  · intro h
    obtain ⟨resolved, hrun, hquiet⟩ := h
    obtain ⟨named, hnamed, hresolved, hdistinct, hall⟩ :=
      (server_checkChanges hindex hsmall hchanges).mp hrun
    rw [List.nil_append] at hresolved
    subst hresolved
    exact ⟨_, hnamed, hdistinct, fun change hmem => (hall change hmem).2,
      (hholds _ hnamed).mp hquiet⟩
  · intro h
    obtain ⟨named, hnamed, hpasses⟩ := h
    refine ⟨named, (server_checkChanges hindex hsmall hchanges).mpr
      ⟨named, hnamed, (List.nil_append _).symm, hpasses.distinct, ?_⟩,
      (hholds named hnamed).mpr hpasses.holds⟩
    intro change hmem
    exact ⟨List.not_mem_nil, hpasses.permitted change hmem⟩

theorem contractAccepts_iff (hindex : CleanIndex (registryEntries registry))
    (hedges : dependencyEdges (registryEntries registry) = some edges)
    (hclean : ∀ edge ∈ edges, CleanEdge (registryEntries registry) edge) :
    ContractAccepts registry changes ↔ ∃ named, changes.map namedChange = named.map some ∧
      Passes Permitted (registryEntries registry) edges named := by
  have hstart : Took (registryEntries registry) [] [] ⟨[], [], []⟩ :=
    ⟨rfl, rfl, List.nodup_nil, by simp, fun _ => rfl⟩
  constructor
  · intro h
    obtain ⟨batch, edges', named, hrun, hquiet, hedges', hnamed, hall⟩ := h
    obtain rfl := Option.some.inj (hedges.symm.trans hedges')
    obtain ⟨more, hmore, htook⟩ := hstart.run hindex hrun hquiet
    obtain rfl := (List.map_injective_iff.mpr (Option.some_injective _))
      (hnamed.symm.trans hmore)
    rw [List.nil_append] at htook
    refine ⟨named, hnamed, htook.distinct, htook.permitted, ?_⟩
    intro edge hedge htouches
    have hverdict := hall edge hedge
    rw [edgeErrors_eq_nil (hclean edge hedge), htook.changed, funext htook.valueOf_eq] at hverdict
    exact hverdict.imp_left fun hholds => hholds htouches
  · intro h
    obtain ⟨named, hnamed, hpasses⟩ := h
    obtain ⟨batch, hrun, htook⟩ :=
      hstart.complete 0 hindex hnamed hpasses.distinct hpasses.permitted
    rw [List.nil_append] at htook
    refine ⟨batch, edges, named, hrun, htook.errors, hedges, hnamed, ?_⟩
    intro edge hedge
    rw [edgeErrors_eq_nil (hclean edge hedge), htook.changed, funext htook.valueOf_eq]
    by_cases htouches : edge.Touches (named.map Prod.fst)
    · exact (hpasses.holds edge hedge htouches).imp_left fun hholds _ => hholds
    · exact Or.inl fun h => absurd h htouches

/-- The verdict of the save checks themselves, where no edge is excused. -/
theorem contractAccepts_of_quiet (hindex : CleanIndex (registryEntries registry))
    (hedges : dependencyEdges (registryEntries registry) = some edges)
    (hclean : ∀ edge ∈ edges, CleanEdge (registryEntries registry) edge) :
    saveErrors .exact (registryEntries registry) .null (.list changes) = some [] ↔
      ∃ named, changes.map namedChange = named.map some ∧
        Passes Permitted (registryEntries registry) edges named ∧
        ∀ edge ∈ edges, edge.Touches (named.map Prod.fst) →
          edge.Holds .exact (merged (registryEntries registry) [] named) := by
  rw [saveErrors_eq_nil hindex hedges hclean]
  constructor
  · intro h
    obtain ⟨-, named, hnamed, hadmits⟩ := h
    exact ⟨named, hnamed, ⟨hadmits.distinct, hadmits.permitted,
      fun edge hedge htouches => Or.inl (hadmits.holds edge hedge htouches)⟩, hadmits.holds⟩
  · intro h
    obtain ⟨named, hnamed, hpasses, hholds⟩ := h
    exact ⟨rfl, named, hnamed, hpasses.distinct, hpasses.permitted, hholds⟩

/-! ### The mirror -/

/-- The server refuses what the contract forbids, and nothing else, but for
    speeds over a ceiling that the batch lowers. -/
def Mirrors (registry : Json) (changes : List Json) : Prop :=
  (saveErrors .exact (registryEntries registry) .null (.list changes) = some [] →
      ServerAccepts registry changes) ∧
    (ServerAccepts registry changes → ContractAccepts registry changes)

/-- The parameter is an end of no constraint. -/
def Unconstrained (registry : Json) (pid : String) : Prop :=
  ∀ edges, dependencyEdges (registryEntries registry) = some edges →
    ∀ edge ∈ edges, edge.source ≠ pid ∧ edge.target ≠ .str pid

/-- A flag that may be edited on its own. -/
structure EditableFlag (registry : Json) (pid : String) (entry : Fields) : Prop where
  lookup : (registryEntries registry).lookup pid = some entry
  declared : Json.get entry "type" = .str "boolean"
  unprotected : Json.get entry "protected" = .bool false
  applicable : Json.get entry "not_applicable" = .bool false
  editable : Json.get entry "accepts_edits" = .bool true
  unconstrained : Unconstrained registry pid

/-- A flag that an edge of the batch joins is refused on both sides: it is no
    number. -/
theorem Passes.unconstrained {permits : Fields → Json → Prop} {flag : Bool}
    (h : Passes permits (registryEntries registry) edges named)
    (hedges : dependencyEdges (registryEntries registry) = some edges)
    (hmem : (pid, Json.bool flag) ∈ named) : Unconstrained registry pid := by
  intro edges' hedges' edge hedge
  obtain rfl := Option.some.inj (hedges.symm.trans hedges')
  have hkey : pid ∈ named.map Prod.fst := List.mem_map_of_mem hmem
  have hvalue : merged (registryEntries registry) [] named pid = .bool flag := by
    have hlookup : named.lookup pid = some (.bool flag) := by
      obtain ⟨value, hvalue⟩ := Option.isSome_iff_exists.mp
        (List.lookup_isSome_iff.mpr ⟨_, hmem, beq_self_eq_true pid⟩)
      have hsame := List.inj_on_of_nodup_map h.distinct (mem_of_lookup hvalue) hmem rfl
      rw [hvalue, (Prod.mk.inj hsame).2]
    rw [merged, hlookup]
  have hnumber : ∀ {x : ℚ},
      realOf (merged (registryEntries registry) [] named pid) ≠ some x := by
    intro x hx
    rw [hvalue] at hx
    cases hx
  constructor
  · rintro rfl
    rcases h.holds edge hedge (Or.inl hkey) with hholds | hexcused
    · obtain ⟨target, -, hbetween⟩ := hholds
      obtain ⟨low, high, hlow, -⟩ := hbetween.numbers
      exact hnumber hlow
    · obtain ⟨-, -, target, low, high, -, hlow, -⟩ := hexcused
      exact hnumber hlow
  · intro htarget
    rcases h.holds edge hedge (Or.inr ⟨pid, htarget, hkey⟩) with hholds | hexcused
    · obtain ⟨target, htarget', hbetween⟩ := hholds
      obtain rfl := Json.str.inj (htarget'.symm.trans htarget)
      obtain ⟨low, high, -, hhigh, -⟩ := hbetween.numbers
      exact hnumber hhigh
    · obtain ⟨-, -, target, low, high, htarget', -, hhigh, -⟩ := hexcused
      obtain rfl := Json.str.inj (htarget'.symm.trans htarget)
      exact hnumber hhigh

theorem Passes.mono {permits permits' : Fields → Json → Prop}
    (h : Passes permits index edges named)
    (hpermits : ∀ pid value entry, (pid, value) ∈ named → index.lookup pid = some entry →
      permits entry value → permits' entry value) :
    Passes permits' index edges named := by
  refine ⟨h.distinct, ?_, h.holds⟩
  intro change hchange
  obtain ⟨entry, hplain, hentry, hpermitted⟩ := h.permitted change hchange
  exact ⟨entry, hplain, hentry, hpermits change.1 change.2 entry hchange hentry hpermitted⟩

/-- The two validators agree on every batch exactly where no flag that can be
    changed on its own has a bound that keeps out false or true. -/
theorem mirrors_iff (hregistry : checkRegistry registry = some [])
    (hsmall : ∀ found ∈ registryEntries registry, SmallEntry found.2) :
    (∀ changes, IsBatch changes → Mirrors registry changes) ↔
      ∀ pid entry, EditableFlag registry pid entry → ∀ flag, InBounds entry (.bool flag) := by
  have hindex := cleanIndex hregistry
  obtain ⟨edges, hedges, hclean⟩ := dependencyEdges_clean hindex
  constructor
  · intro h pid entry hflag flag
    have hlogical := (fieldProblems_of_clean hregistry (mem_of_lookup hflag.lookup)).1
    let change : Json := .obj [("id", .str pid), ("value", .bool flag)]
    have hchange : IsChange change := by
      refine ⟨_, rfl, by simp [Json.hasExactly, Json.lookup], ?_⟩
      intro n hn
      cases hn
    have hbatch : IsBatch [change] := by
      refine ⟨by simpa using hchange, by simp [maxChanges]⟩
    have hpasses : Passes LetThrough (registryEntries registry) edges [(pid, .bool flag)] := by
      refine ⟨by simp, ?_, ?_⟩
      · intro made hmade
        obtain rfl := List.mem_singleton.mp hmade
        exact ⟨entry, hasPathInjection_of_logicalId hlogical, hflag.lookup,
          ⟨hflag.unprotected, hflag.applicable, hflag.editable, .boolean hflag.declared,
            Or.inl rfl⟩⟩
      · intro edge hedge htouches
        obtain ⟨hsource, htarget⟩ := hflag.unconstrained edges hedges edge hedge
        exfalso
        rcases htouches with hmem | hmem
        · exact hsource (by simpa using hmem)
        · obtain ⟨target, heq, hmem⟩ := hmem
          apply htarget
          rw [heq, show target = pid by simpa using hmem]
    have haccepts : ServerAccepts registry [change] :=
      (serverAccepts_iff hindex hsmall hedges hclean hbatch.each).mpr ⟨_, rfl, hpasses⟩
    obtain ⟨named, hnamed, hpermitted⟩ :=
      (contractAccepts_iff hindex hedges hclean).mp ((h [change] hbatch).2 haccepts)
    obtain rfl : [(pid, Json.bool flag)] = named :=
      (List.map_injective_iff.mpr (Option.some_injective _)) hnamed
    obtain ⟨entry', -, hentry, hbounded⟩ :=
      hpermitted.permitted (pid, .bool flag) (List.mem_singleton_self _)
    obtain rfl := Option.some.inj (hflag.lookup.symm.trans hentry)
    exact hbounded.bounded
  · intro h changes hbatch
    constructor
    · intro hquiet
      obtain ⟨named, hnamed, hpasses, -⟩ :=
        (contractAccepts_of_quiet hindex hedges hclean).mp hquiet
      exact (serverAccepts_iff hindex hsmall hedges hclean hbatch.each).mpr ⟨named, hnamed,
        hpasses.mono fun _ _ _ _ _ hpermitted => (permitted_iff.mp hpermitted).1⟩
    · intro haccepts
      obtain ⟨named, hnamed, hpasses⟩ :=
        (serverAccepts_iff hindex hsmall hedges hclean hbatch.each).mp haccepts
      refine (contractAccepts_iff hindex hedges hclean).mpr ⟨named, hnamed, hpasses.mono ?_⟩
      intro pid value entry hmem hentry hlet
      rw [permitted_iff]
      refine ⟨hlet, ?_⟩
      rcases hlet.bounded with hbool | hinside
      · obtain ⟨flag, rfl⟩ := isBool_eq hbool
        have hdeclared : Json.get entry "type" = .str "boolean" := by
          cases hlet.typed with
          | number _ hreal => cases hreal
          | boolean hdeclared => exact hdeclared
        exact h pid entry ⟨hentry, hdeclared, hlet.unprotected, hlet.applicable, hlet.editable,
          hpasses.unconstrained hedges hmem⟩ flag
      · exact hinside

/-- A catalog with a flag whose lower bound is 1. -/
def flagRegistry : Json :=
  plainRegistry [plainEntry "assist.enabled" "boolean" (.bool true) (.int 1) .null []]

/-- The flag is cleared. -/
def flagBatch : List Json := [.obj [("id", .str "assist.enabled"), ("value", .bool false)]]

theorem flagRegistry_clean : checkRegistry flagRegistry = some [] :=
  report_eq_nil (by decide +kernel)

theorem small_plainEntry {declared : String} {default lower upper : Json}
    (h : Json.obj entry = plainEntry pid declared default lower upper [])
    (hdefault : Small default) (hlower : Small lower) (hupper : Small upper) :
    SmallEntry entry := by
  obtain rfl := Json.obj.inj h
  refine ⟨hdefault, ?_, ?_⟩
  · intro bounds hbounds
    obtain rfl := Json.obj.inj hbounds
    exact ⟨hlower, hupper⟩
  · intro dependencies hdependencies fields hmem
    obtain rfl := Json.list.inj hdependencies
    cases hmem

theorem flagRegistry_small : ∀ found ∈ registryEntries flagRegistry, SmallEntry found.2 := by
  intro found hfound
  have hint : ∀ n : Int, n.natAbs ≤ maxInt → Small (.int n) := by
    rintro n hn _ ⟨⟩
    exact hn
  have hother : ∀ value, strictInt value = none → Small value := by
    rintro _ hvalue n rfl
    cases hvalue
  have hmem : Json.obj found.2 ∈ [plainEntry "max_linear_m_s" "number" (.int 0) .null _ [],
      plainEntry "max_angular_rad_s" "number" (.int 0) .null _ [],
      plainEntry "assist.enabled" "boolean" (.bool true) (.int 1) .null []] :=
    (mem_entriesOf hfound).1
  simp only [List.mem_cons, List.not_mem_nil, or_false] at hmem
  rcases hmem with hmem | hmem | hmem
  · exact small_plainEntry hmem (hint 0 (by decide)) (hother _ rfl) (hother _ rfl)
  · exact small_plainEntry hmem (hint 0 (by decide)) (hother _ rfl) (hother _ rfl)
  · exact small_plainEntry hmem (hother _ rfl) (hint 1 (by decide)) (hother _ rfl)

theorem flagBatch_isBatch : IsBatch flagBatch := by
  refine ⟨?_, by decide⟩
  intro change hchange
  obtain rfl := List.mem_singleton.mp hchange
  refine ⟨_, rfl, by rfl, ?_⟩
  intro n hn
  cases hn

/-- The server clears the flag; the contract finds 0 below 1. -/
theorem not_mirrors_flagBatch : checkRegistry flagRegistry = some [] ∧ IsBatch flagBatch ∧
    ServerAccepts flagRegistry flagBatch ∧
    ¬ContractAccepts flagRegistry flagBatch ∧ ¬Mirrors flagRegistry flagBatch := by
  have haccepts : ServerAccepts flagRegistry flagBatch :=
    ⟨[("assist.enabled", .bool false)], by rfl, by rfl⟩
  have hrefuses : ¬ContractAccepts flagRegistry flagBatch := by
    intro h
    obtain ⟨batch, edges, named, hrun, hquiet, -⟩ := h
    have hfound : ((batchRun (registryEntries flagRegistry) ⟨[], [], []⟩ 0 flagBatch).elim false
        fun batch => !batch.errors.isEmpty) = true := by decide +kernel
    rw [hrun, Option.elim_some, hquiet] at hfound
    cases hfound
  exact ⟨flagRegistry_clean, flagBatch_isBatch, haccepts, hrefuses,
    fun hmirrors => hrefuses (hmirrors.2 haccepts)⟩

theorem mirrors_iff_flagRegistry :
    (∀ changes, IsBatch changes → Mirrors flagRegistry changes) ↔
      ∀ pid entry, EditableFlag flagRegistry pid entry → ∀ flag, InBounds entry (.bool flag) :=
  mirrors_iff flagRegistry_clean flagRegistry_small

end PatrolBot.Tuning.Contract
