import PatrolBot.Py

/-!
# The reviewed tuning catalog

`contracts/robot-tuning.registry.json`: the parameters the robot lets an
operator see or change, with their bounds and the constraints between them.
The server and the browser read the same file, each with checks of its own.
-/

namespace PatrolBot.Tuning

/-- `MAX_INT`. -/
def maxInt : Nat := 2 ^ 63 - 1

/-- `JS_SAFE_INT`. -/
def jsSafeInt : Int := 2 ^ 53 - 1

/-- `is_finite_number`, with the number as its answer; a `bool` is no number. -/
def finiteValue : Json → Option ℚ
  | .int n => if n.natAbs ≤ maxInt then some n else none
  | .float (.finite q) => some q
  | _ => none

/-- `is_strict_int`, with the integer as its answer. -/
def strictInt : Json → Option Int
  | .int n => some n
  | _ => none

inductive ParameterType where
  | number
  | integer
  | boolean
  | string
deriving DecidableEq

def ParameterType.text : ParameterType → String
  | .number => "number"
  | .integer => "integer"
  | .boolean => "boolean"
  | .string => "string"

structure Bounds where
  lower : Option ℚ := none
  upper : Option ℚ := none
  lowerInclusive : Bool := true
  upperInclusive : Bool := true

/-- A constraint between the parameter that declares it and its target. -/
structure Dependency where
  kind : String
  target : String
  equals : Option ℚ := none
  tolerance : Option ℚ := none

/-- The fields of a catalog entry that a check reads. -/
structure Parameter where
  id : String
  label : String
  group : String
  type : ParameterType
  valueKind : String
  default : Json
  acceptsEdits : Bool := true
  isProtected : Bool := false
  notApplicable : Bool := false
  bounds : Bounds := {}
  dependencies : List Dependency := []

abbrev Registry := List Parameter

abbrev Index := List (String × Parameter)

/-- `index[key] = value` of a Python dictionary: a key keeps the place where it
    was first set. -/
def insertAt {α : Type} (key : String) (value : α) : List (String × α) → List (String × α)
  | [] => [(key, value)]
  | entry :: entries =>
    if entry.1 = key then (key, value) :: entries else entry :: insertAt key value entries

/-- `registry_index`. -/
def registryIndex (registry : Registry) : Index :=
  registry.foldl (fun index entry => insertAt entry.id entry index) []

/-! ### Facts about dictionaries -/

variable {α : Type} {key other : String} {value : α} {entries : List (String × α)}

@[simp] theorem lookup_insertAt_self : (insertAt key value entries).lookup key = some value := by
  induction entries with
  | nil => simp [insertAt]
  | cons entry entries ih =>
    obtain ⟨name, held⟩ := entry
    unfold insertAt
    split
    · simp
    · rename_i h
      simp only [List.lookup_cons, beq_eq_false_iff_ne.mpr (Ne.symm h), ih]

theorem lookup_insertAt_ne (h : other ≠ key) :
    (insertAt key value entries).lookup other = entries.lookup other := by
  induction entries with
  | nil => simp only [insertAt, List.lookup_cons, beq_eq_false_iff_ne.mpr h]
  | cons entry entries ih =>
    obtain ⟨name, held⟩ := entry
    unfold insertAt
    split
    · rename_i heq
      dsimp only at heq
      simp only [List.lookup_cons, heq, beq_eq_false_iff_ne.mpr h]
    · simp only [List.lookup_cons, ih]

theorem mem_insertAt {entry : String × α} (h : entry ∈ insertAt key value entries) :
    entry = (key, value) ∨ entry ∈ entries := by
  induction entries with
  | nil => exact Or.inl (List.mem_singleton.mp h)
  | cons head entries ih =>
    unfold insertAt at h
    split at h
    · exact (List.mem_cons.mp h).imp_right (List.mem_cons_of_mem _)
    · rcases List.mem_cons.mp h with rfl | hmem
      · exact Or.inr List.mem_cons_self
      · exact (ih hmem).imp_right (List.mem_cons_of_mem _)

theorem nodup_insertAt (h : (entries.map Prod.fst).Nodup) :
    ((insertAt key value entries).map Prod.fst).Nodup := by
  induction entries with
  | nil => exact List.nodup_cons.mpr ⟨List.not_mem_nil, List.nodup_nil⟩
  | cons head entries ih =>
    obtain ⟨hhead, hentries⟩ := List.nodup_cons.mp h
    unfold insertAt
    split
    · rename_i heq
      exact List.nodup_cons.mpr ⟨heq ▸ hhead, hentries⟩
    · rename_i hne
      refine List.nodup_cons.mpr ⟨?_, ih hentries⟩
      intro hmem
      obtain ⟨entry, hentry, hkey⟩ := List.mem_map.mp hmem
      rcases mem_insertAt hentry with rfl | hold
      · exact hne hkey.symm
      · exact hhead (hkey ▸ List.mem_map_of_mem hold)

theorem mem_of_lookup (h : entries.lookup key = some value) : (key, value) ∈ entries := by
  obtain ⟨before, after, hsplit, -⟩ := List.lookup_eq_some_iff.mp h
  rw [hsplit]
  exact List.mem_append_right _ List.mem_cons_self

theorem lookup_eq (key : String) (fields : List (String × Json)) :
    Json.lookup key fields = fields.lookup key := by
  induction fields with
  | nil => rfl
  | cons field fields ih =>
    obtain ⟨name, value⟩ := field
    rw [Json.lookup, List.lookup_cons, ih]
    by_cases hkey : name = key
    · simp [hkey]
    · simp [hkey, beq_eq_false_iff_ne.mpr (Ne.symm hkey)]

/-- Every entry of the index stands under its own id. -/
theorem registryIndex_ids {registry : Registry} :
    ∀ entry ∈ registryIndex registry, entry.2.id = entry.1 := by
  suffices key : ∀ index : Index, (∀ entry ∈ index, entry.2.id = entry.1) →
      ∀ entry ∈ registry.foldl (fun index entry => insertAt entry.id entry index) index,
        entry.2.id = entry.1 by
    exact key [] (by simp)
  induction registry with
  | nil => exact fun index h => h
  | cons parameter registry ih =>
    intro index h
    refine ih _ ?_
    intro entry hentry
    rcases mem_insertAt hentry with rfl | hold
    · rfl
    · exact h entry hold

end PatrolBot.Tuning
