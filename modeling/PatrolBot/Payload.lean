import PatrolBot.Py

/-!
# Validated payloads

What a payload model accepts, and what it makes of it: lax validation of decoded JSON
against the annotated fields of a model.  A model looks at its own fields; what else an
object holds is ignored or forbidden.  The parts of an accepted value that no check has
looked at are what a value that is passed on raw can still be wrong in.
-/

namespace PatrolBot

/-! ### Strict JSON -/

mutual

/-- No number in the value is an infinity or a NaN. -/
def Json.strict : Json → Bool
  | .float value => value.isFinite
  | .list items => Json.strictItems items
  | .obj fields => Json.strictFields fields
  | _ => true

def Json.strictItems : List Json → Bool
  | [] => true
  | item :: items => Json.strict item && Json.strictItems items

def Json.strictFields : List (String × Json) → Bool
  | [] => true
  | (_, value) :: fields => Json.strict value && Json.strictFields fields

end

theorem Json.strictFields_eq_all (fields : List (String × Json)) :
    Json.strictFields fields = fields.all fun field => field.2.strict := by
  induction fields with
  | nil => rfl
  | cons field fields ih =>
    obtain ⟨key, value⟩ := field
    rw [Json.strictFields, List.all_cons, ih]

theorem Json.strict_of_lookup {fields : List (String × Json)}
    (hfields : Json.strictFields fields = true) {key : String} {value : Json}
    (h : Json.lookup key fields = some value) : value.strict = true := by
  induction fields with
  | nil => cases h
  | cons field fields ih =>
    obtain ⟨name, inner⟩ := field
    simp only [Json.strictFields, Bool.and_eq_true] at hfields
    simp only [Json.lookup] at h
    split at h
    · cases h
      exact hfields.1
    · exact ih hfields.2 h

/-! ### Models -/

/-- An annotation of a model's field.  A field of a record has its name, its annotation,
    and the default it takes when it is missing. -/
inductive Shape where
  | chars (maxLength : Option Nat)
  | literal (options : List String)
  | flag
  | whole (exact : Bool) (lower upper : Option Int)
  | number (finiteOnly : Bool) (lower upper : Option ℚ)
  | nullable (shape : Shape)
  | items (shape : Shape)
  | tuple (shapes : List Shape)
  | texts
  | record (forbidsExtra : Bool) (fields : List (String × Shape × Option Json))

/-- What the validation library reads a text or an integral float as where another scalar
    is expected, and whether it lets a NaN past a bound. -/
structure Coercions where
  flagOf : String → Option Bool
  wholeOf : String → Option Int
  wholeOfFloat : ℚ → Option Int
  numberOf : String → Option PyFloat
  nanInBounds : Bool

namespace Shape

/-- The annotation without its `None`. -/
def peel : Shape → Shape
  | .nullable shape => shape.peel
  | shape => shape

def isNullable : Shape → Bool
  | .nullable _ => true
  | _ => false

/-- The annotation of a field. -/
def fieldShape (fields : List (String × Shape × Option Json)) (key : String) : Option Shape :=
  (fields.find? fun field => field.1 == key).map fun field => field.2.1

def boundedWhole (lower upper : Option Int) (value : Int) : Option Json :=
  if lower.all (· ≤ value) && upper.all (value ≤ ·) then some (.int value) else none

section

variable (coercions : Coercions)

def inBounds (lower upper : Option ℚ) : PyFloat → Bool
  | .nan => lower.isNone && upper.isNone || coercions.nanInBounds
  | value => lower.all (fun lower => PyFloat.le (.finite lower) value) &&
      upper.all (fun upper => value.le (.finite upper))

def boundedNumber (finiteOnly : Bool) (lower upper : Option ℚ) (value : PyFloat) : Option Json :=
  if (!finiteOnly || value.isFinite) && inBounds coercions lower upper value then
    some (.float value)
  else none

/-- A value that is no list, no object and not `None`. -/
def validateScalar : Shape → Json → Option Json
  | .chars maxLength, .str value =>
    if maxLength.all (value.length ≤ ·) then some (.str value) else none
  | .literal options, .str value => if options.contains value then some (.str value) else none
  | .flag, .bool value => some (.bool value)
  | .flag, .int value => if value = 0 then some (.bool false)
      else if value = 1 then some (.bool true) else none
  | .flag, .float (.finite value) => if value = 0 then some (.bool false)
      else if value = 1 then some (.bool true) else none
  | .flag, .str value => (coercions.flagOf value).map .bool
  | .whole _ lower upper, .int value => boundedWhole lower upper value
  | .whole false lower upper, .bool value => boundedWhole lower upper (if value then 1 else 0)
  | .whole false lower upper, .float (.finite value) =>
    if value.den = 1 then (coercions.wholeOfFloat value).bind (boundedWhole lower upper) else none
  | .whole false lower upper, .str value =>
    (coercions.wholeOf value).bind (boundedWhole lower upper)
  | .number finiteOnly lower upper, .float value =>
    boundedNumber coercions finiteOnly lower upper value
  | .number finiteOnly lower upper, .int value =>
    (floatOfInt value).bind fun value =>
      boundedNumber coercions finiteOnly lower upper (.finite value)
  | .number finiteOnly lower upper, .bool value =>
    boundedNumber coercions finiteOnly lower upper (.finite (if value then 1 else 0))
  | .number finiteOnly lower upper, .str value =>
    (coercions.numberOf value).bind (boundedNumber coercions finiteOnly lower upper)
  | _, _ => none

/-- A field of a model: what was validated for it, or its default. -/
def fieldValue (entries : List (String × Json)) (field : String × Shape × Option Json) :
    Option (String × Json) :=
  ((Json.lookup field.1 entries).or field.2.2).map fun value => (field.1, value)

mutual

/-- `model_validate`. -/
def validate : Shape → Json → Option Json
  | shape, .null => if shape.isNullable then some .null else none
  | shape, .list values => match shape.peel with
    | .items inner => (validateItems inner values).map .list
    | .tuple shapes => (validateTuple shapes values).map .list
    | _ => none
  | shape, .obj entries => match shape.peel with
    | .texts => (validateTexts entries).map .obj
    | .record forbidsExtra fields =>
      (validateEntries forbidsExtra fields entries).bind fun entries =>
        (fields.mapM (fieldValue entries)).map .obj
    | _ => none
  | shape, .bool value => validateScalar coercions shape.peel (.bool value)
  | shape, .int value => validateScalar coercions shape.peel (.int value)
  | shape, .float value => validateScalar coercions shape.peel (.float value)
  | shape, .str value => validateScalar coercions shape.peel (.str value)

def validateItems (shape : Shape) : List Json → Option (List Json)
  | [] => some []
  | value :: values => match validate shape value, validateItems shape values with
    | some value, some values => some (value :: values)
    | _, _ => none

def validateTuple : List Shape → List Json → Option (List Json)
  | [], [] => some []
  | shape :: shapes, value :: values =>
    match validate shape value, validateTuple shapes values with
    | some value, some values => some (value :: values)
    | _, _ => none
  | _, _ => none

def validateTexts : List (String × Json) → Option (List (String × Json))
  | [] => some []
  | (key, value) :: entries => match validate (.chars none) value, validateTexts entries with
    | some value, some entries => some ((key, value) :: entries)
    | _, _ => none

def validateEntries (forbidsExtra : Bool) (fields : List (String × Shape × Option Json)) :
    List (String × Json) → Option (List (String × Json))
  | [] => some []
  | (key, value) :: entries => match fieldShape fields key with
    | some shape => match validate shape value, validateEntries forbidsExtra fields entries with
      | some value, some entries => some ((key, value) :: entries)
      | _, _ => none
    | none => if forbidsExtra then none else validateEntries forbidsExtra fields entries

end

end

/-- An entry that a record takes, or passes over. -/
def acceptsEntry (coercions : Coercions) (forbidsExtra : Bool)
    (fields : List (String × Shape × Option Json)) (entry : String × Json) : Bool :=
  match fieldShape fields entry.1 with
  | some shape => (validate coercions shape entry.2).isSome
  | none => !forbidsExtra

theorem isSome_validateEntries (coercions : Coercions) (forbidsExtra : Bool)
    (fields : List (String × Shape × Option Json)) (entries : List (String × Json)) :
    (validateEntries coercions forbidsExtra fields entries).isSome =
      entries.all (acceptsEntry coercions forbidsExtra fields) := by
  induction entries with
  | nil => rfl
  | cons entry entries ih =>
    obtain ⟨key, value⟩ := entry
    rw [validateEntries, List.all_cons, ← ih, acceptsEntry]
    cases hshape : fieldShape fields key with
    | none => cases forbidsExtra <;> simp
    | some shape =>
      cases hvalue : validate coercions shape value with
      | none => simp [hvalue]
      | some out =>
        cases validateEntries coercions forbidsExtra fields entries <;> simp [hvalue]

/-! ### What is not checked -/

mutual

/-- The parts of an accepted value that may hold any number: what a record does not name,
    and the numbers that need not be finite. -/
def loose : Shape → Json → List Json
  | _, .null => []
  | shape, .list values => match shape.peel with
    | .items inner => looseItems inner values
    | .tuple shapes => looseTuple shapes values
    | _ => []
  | shape, .obj entries => match shape.peel with
    | .record _ fields => looseEntries fields entries
    | _ => []
  | shape, .float value => match shape.peel with
    | .number false _ _ => [.float value]
    | _ => []
  | _, _ => []

def looseItems (shape : Shape) : List Json → List Json
  | [] => []
  | value :: values => loose shape value ++ looseItems shape values

def looseTuple : List Shape → List Json → List Json
  | shape :: shapes, value :: values => loose shape value ++ looseTuple shapes values
  | _, _ => []

def looseEntries (fields : List (String × Shape × Option Json)) : List (String × Json) → List Json
  | [] => []
  | (key, value) :: entries => (match fieldShape fields key with
    | some shape => loose shape value
    | none => [value]) ++ looseEntries fields entries

end

/-! ### Accepted values -/

section

variable {coercions : Coercions}

/-- A float that is accepted is finite unless the model says it need not be. -/
theorem isFinite_of_validateScalar {shape : Shape} {value : PyFloat}
    (haccepted : (validateScalar coercions shape (.float value)).isSome)
    (hloose : ∀ lower upper, shape ≠ .number false lower upper) : value.isFinite = true := by
  cases value with
  | finite value => rfl
  | inf negative =>
    cases shape with
    | number finiteOnly lower upper =>
      cases finiteOnly with
      | true => simp [validateScalar, boundedNumber, PyFloat.isFinite] at haccepted
      | false => exact absurd rfl (hloose lower upper)
    | _ => simp [validateScalar] at haccepted
  | nan =>
    cases shape with
    | number finiteOnly lower upper =>
      cases finiteOnly with
      | true => simp [validateScalar, boundedNumber, PyFloat.isFinite] at haccepted
      | false => exact absurd rfl (hloose lower upper)
    | _ => simp [validateScalar] at haccepted

/-- A text is strict. -/
theorem strict_of_validate_chars {maxLength : Option Nat} {value : Json}
    (haccepted : (validate coercions (.chars maxLength) value).isSome) :
    value.strict = true := by
  cases value with
  | float value =>
    have hloose : ∀ lower upper, Shape.chars maxLength ≠ .number false lower upper := by
      intro lower upper h
      cases h
    have hscalar : (validateScalar coercions (.chars maxLength) (.float value)).isSome := haccepted
    exact isFinite_of_validateScalar hscalar hloose
  | list values => simp [validate, peel] at haccepted
  | obj entries => simp [validate, peel] at haccepted
  | _ => rfl

theorem strictFields_of_validateTexts (entries : List (String × Json))
    (haccepted : (validateTexts coercions entries).isSome) :
    Json.strictFields entries = true := by
  induction entries with
  | nil => rfl
  | cons entry entries ih =>
    obtain ⟨key, value⟩ := entry
    cases hvalue : validate coercions (.chars none) value with
    | none => simp [validateTexts, hvalue] at haccepted
    | some out =>
      cases hentries : validateTexts coercions entries with
      | none => simp [validateTexts, hvalue, hentries] at haccepted
      | some outs =>
        rw [Json.strictFields, strict_of_validate_chars (by rw [hvalue]; rfl),
          ih (by rw [hentries]; rfl)]
        rfl

mutual

/-- An accepted value is strict exactly when what its model does not check is. -/
theorem strict_iff_loose (shape : Shape) : ∀ (value : Json),
    (validate coercions shape value).isSome →
      (value.strict = true ↔ ∀ part ∈ loose shape value, part.strict = true)
  | .null, _ => by simp [loose, Json.strict]
  | .bool _, _ => by simp [loose, Json.strict]
  | .int _, _ => by simp [loose, Json.strict]
  | .str _, _ => by simp [loose, Json.strict]
  | .float value, haccepted => by
    rw [validate] at haccepted
    rw [loose]
    split
    · simp
    · rename_i hloose
      have hfinite := isFinite_of_validateScalar haccepted (fun lower upper h =>
        hloose lower upper h)
      simpa [Json.strict] using hfinite
  | .list values, haccepted => by
    rw [validate] at haccepted
    rw [loose, Json.strict]
    cases hshape : shape.peel with
    | items inner =>
      rw [hshape] at haccepted
      exact strictItems_iff_loose inner values (by simpa using haccepted)
    | tuple shapes =>
      rw [hshape] at haccepted
      exact strictItems_iff_looseTuple shapes values (by simpa using haccepted)
    | _ => simp [hshape] at haccepted
  | .obj entries, haccepted => by
    rw [validate] at haccepted
    rw [loose, Json.strict]
    cases hshape : shape.peel with
    | texts =>
      rw [hshape] at haccepted
      simpa using strictFields_of_validateTexts entries (by simpa using haccepted)
    | record forbidsExtra fields =>
      rw [hshape] at haccepted
      apply strictFields_iff_loose forbidsExtra fields entries
      cases hentries : validateEntries coercions forbidsExtra fields entries with
      | none => simp [hentries] at haccepted
      | some out => rfl
    | _ => simp [hshape] at haccepted

theorem strictItems_iff_loose (shape : Shape) : ∀ (values : List Json),
    (validateItems coercions shape values).isSome →
      (Json.strictItems values = true ↔
        ∀ part ∈ looseItems shape values, part.strict = true)
  | [], _ => by simp [looseItems, Json.strictItems]
  | value :: values, haccepted => by
    cases hvalue : validate coercions shape value with
    | none => simp [validateItems, hvalue] at haccepted
    | some out =>
      cases hvalues : validateItems coercions shape values with
      | none => simp [validateItems, hvalue, hvalues] at haccepted
      | some outs =>
        have hhead := strict_iff_loose shape value (by rw [hvalue]; rfl)
        have htail := strictItems_iff_loose shape values (by rw [hvalues]; rfl)
        simp only [Json.strictItems, looseItems, Bool.and_eq_true, List.mem_append, hhead, htail,
          or_imp, forall_and]

theorem strictItems_iff_looseTuple : ∀ (shapes : List Shape) (values : List Json),
    (validateTuple coercions shapes values).isSome →
      (Json.strictItems values = true ↔
        ∀ part ∈ looseTuple shapes values, part.strict = true)
  | [], [], _ => by simp [looseTuple, Json.strictItems]
  | [], _ :: _, haccepted => by simp [validateTuple] at haccepted
  | _ :: _, [], haccepted => by simp [validateTuple] at haccepted
  | shape :: shapes, value :: values, haccepted => by
    cases hvalue : validate coercions shape value with
    | none => simp [validateTuple, hvalue] at haccepted
    | some out =>
      cases hvalues : validateTuple coercions shapes values with
      | none => simp [validateTuple, hvalue, hvalues] at haccepted
      | some outs =>
        have hhead := strict_iff_loose shape value (by rw [hvalue]; rfl)
        have htail := strictItems_iff_looseTuple shapes values (by rw [hvalues]; rfl)
        simp only [Json.strictItems, looseTuple, Bool.and_eq_true, List.mem_append, hhead, htail,
          or_imp, forall_and]

theorem strictFields_iff_loose (forbidsExtra : Bool)
    (fields : List (String × Shape × Option Json)) : ∀ (entries : List (String × Json)),
    (validateEntries coercions forbidsExtra fields entries).isSome →
      (Json.strictFields entries = true ↔
        ∀ part ∈ looseEntries fields entries, part.strict = true)
  | [], _ => by simp [looseEntries, Json.strictFields]
  | (key, value) :: entries, haccepted => by
    cases hentries : validateEntries coercions forbidsExtra fields entries with
    | none =>
      cases hshape : fieldShape fields key with
      | none => simp [validateEntries, hshape, hentries] at haccepted
      | some shape =>
        cases hvalue : validate coercions shape value <;>
          simp [validateEntries, hshape, hvalue, hentries] at haccepted
    | some outs =>
      have htail := strictFields_iff_loose forbidsExtra fields entries (by rw [hentries]; rfl)
      cases hshape : fieldShape fields key with
      | none =>
        simp only [Json.strictFields, looseEntries, hshape, Bool.and_eq_true, List.mem_append,
          htail, or_imp, forall_and, List.mem_singleton, forall_eq]
      | some shape =>
        cases hvalue : validate coercions shape value with
        | none => simp [validateEntries, hshape, hvalue] at haccepted
        | some out =>
          have hhead := strict_iff_loose shape value (by rw [hvalue]; rfl)
          simp only [Json.strictFields, looseEntries, hshape, Bool.and_eq_true, List.mem_append,
            hhead, htail, or_imp, forall_and]

end

end

/-! ### Strict models -/

mutual

/-- Every number the model reads must be finite, and so are its defaults. -/
def strict : Shape → Bool
  | .number finiteOnly _ _ => finiteOnly
  | .nullable shape => strict shape
  | .items shape => strict shape
  | .tuple shapes => strictAll shapes
  | .record _ fields => strictFields fields
  | _ => true

def strictAll : List Shape → Bool
  | [] => true
  | shape :: shapes => strict shape && strictAll shapes

def strictFields : List (String × Shape × Option Json) → Bool
  | [] => true
  | (_, shape, default) :: fields =>
    strict shape && default.all Json.strict && strictFields fields

end

theorem strict_peel : ∀ (shape : Shape), shape.peel.strict = shape.strict
  | .nullable shape => by rw [peel, strict, strict_peel shape]
  | .chars _ | .literal _ | .flag | .whole .. | .number .. | .items _ | .tuple _ | .texts
  | .record .. => rfl

theorem strict_of_fieldShape {fields : List (String × Shape × Option Json)} {key : String}
    {shape : Shape} (hstrict : strictFields fields = true)
    (hshape : fieldShape fields key = some shape) : shape.strict = true := by
  induction fields with
  | nil => cases hshape
  | cons field fields ih =>
    obtain ⟨name, inner, default⟩ := field
    simp only [strictFields, Bool.and_eq_true] at hstrict
    by_cases hname : name = key
    · simp only [fieldShape, List.find?_cons, hname, beq_self_eq_true, Option.map_some,
        Option.some.injEq] at hshape
      rw [← hshape]
      exact hstrict.1.1
    · apply ih hstrict.2
      simpa [fieldShape, List.find?_cons, hname] using hshape

theorem strict_of_default {fields : List (String × Shape × Option Json)}
    (hstrict : strictFields fields = true) {field : String × Shape × Option Json}
    (hfield : field ∈ fields) {value : Json} (hvalue : field.2.2 = some value) :
    value.strict = true := by
  induction fields with
  | nil => cases hfield
  | cons head fields ih =>
    obtain ⟨name, inner, default⟩ := head
    simp only [strictFields, Bool.and_eq_true] at hstrict
    rcases List.mem_cons.mp hfield with rfl | hfield
    · rw [show default = some value from hvalue] at hstrict
      exact hstrict.1.2
    · exact ih hstrict.2 hfield

section

variable {coercions : Coercions}

theorem exists_int_of_boundedWhole {lower upper : Option Int} {value : Int} {out : Json}
    (h : boundedWhole lower upper value = some out) : ∃ n, out = .int n := by
  simp only [boundedWhole] at h
  split at h
  · exact ⟨value, (Option.some.inj h).symm⟩
  · cases h

theorem boundedNumber_strict {lower upper : Option ℚ} {value : PyFloat} {out : Json}
    (h : boundedNumber coercions true lower upper value = some out) : out.strict = true := by
  simp only [boundedNumber, Bool.not_true, Bool.false_or] at h
  split at h
  · rename_i hvalue
    cases h
    exact (Bool.and_eq_true_iff.mp hvalue).1
  · cases h

theorem exists_bool_of_validateScalar {value out : Json}
    (h : validateScalar coercions .flag value = some out) : ∃ flag, out = .bool flag := by
  cases value with
  | bool value => exact ⟨value, (Option.some.inj h).symm⟩
  | int value =>
    simp only [validateScalar] at h
    split at h
    · exact ⟨false, (Option.some.inj h).symm⟩
    · split at h
      · exact ⟨true, (Option.some.inj h).symm⟩
      · cases h
  | float value =>
    cases value with
    | finite value =>
      simp only [validateScalar] at h
      split at h
      · exact ⟨false, (Option.some.inj h).symm⟩
      · split at h
        · exact ⟨true, (Option.some.inj h).symm⟩
        · cases h
    | _ => simp [validateScalar] at h
  | str value =>
    obtain ⟨flag, -, hout⟩ := Option.map_eq_some_iff.mp h
    exact ⟨flag, hout.symm⟩
  | _ => simp [validateScalar] at h

theorem exists_int_of_validateScalar {exact : Bool} {lower upper : Option Int}
    {value out : Json} (h : validateScalar coercions (.whole exact lower upper) value = some out) :
    ∃ n, out = .int n := by
  cases exact with
  | true =>
    cases value with
    | int value => exact exists_int_of_boundedWhole h
    | _ => simp [validateScalar] at h
  | false =>
    cases value with
    | int value => exact exists_int_of_boundedWhole h
    | bool value => exact exists_int_of_boundedWhole h
    | str value =>
      obtain ⟨value, -, hout⟩ := Option.bind_eq_some_iff.mp h
      exact exists_int_of_boundedWhole hout
    | float value =>
      cases value with
      | finite value =>
        simp only [validateScalar] at h
        split at h
        · obtain ⟨value, -, hout⟩ := Option.bind_eq_some_iff.mp h
          exact exists_int_of_boundedWhole hout
        · cases h
      | _ => simp [validateScalar] at h
    | _ => simp [validateScalar] at h

theorem strict_of_validateScalar {shape : Shape} (hstrict : shape.strict = true) {value out : Json}
    (h : validateScalar coercions shape value = some out) : out.strict = true := by
  cases shape with
  | number finiteOnly lower upper =>
    simp only [strict] at hstrict
    subst hstrict
    cases value with
    | float value => exact boundedNumber_strict h
    | int value =>
      obtain ⟨value, -, hout⟩ := Option.bind_eq_some_iff.mp h
      exact boundedNumber_strict hout
    | bool value => exact boundedNumber_strict h
    | str value =>
      obtain ⟨value, -, hout⟩ := Option.bind_eq_some_iff.mp h
      exact boundedNumber_strict hout
    | _ => simp [validateScalar] at h
  | whole exact lower upper =>
    obtain ⟨n, rfl⟩ := exists_int_of_validateScalar h
    rfl
  | flag =>
    obtain ⟨value, rfl⟩ := exists_bool_of_validateScalar h
    rfl
  | chars maxLength =>
    cases value with
    | str value =>
      simp only [validateScalar, Option.ite_none_right_eq_some, Option.some.injEq] at h
      rw [← h.2]
      rfl
    | _ => simp [validateScalar] at h
  | literal options =>
    cases value with
    | str value =>
      simp only [validateScalar, Option.ite_none_right_eq_some, Option.some.injEq] at h
      rw [← h.2]
      rfl
    | _ => simp [validateScalar] at h
  | _ => simp [validateScalar] at h

theorem strictFields_of_texts {entries outs : List (String × Json)}
    (h : validateTexts coercions entries = some outs) : Json.strictFields outs = true := by
  induction entries generalizing outs with
  | nil =>
    cases h
    rfl
  | cons entry entries ih =>
    obtain ⟨key, value⟩ := entry
    simp only [validateTexts] at h
    split at h
    · rename_i out rest hvalue hrest
      cases h
      rw [Json.strictFields, ih hrest, Bool.and_true]
      cases value with
      | list values => simp [validate, peel] at hvalue
      | obj entries => simp [validate, peel] at hvalue
      | null => simp [validate, isNullable] at hvalue
      | _ =>
        rw [validate] at hvalue
        exact strict_of_validateScalar rfl hvalue
    · cases h

/-- The fields of a record come from what was read and from its defaults. -/
theorem strictFields_of_fieldValues {entries : List (String × Json)}
    (hentries : Json.strictFields entries = true) {fields : List (String × Shape × Option Json)}
    (hdefaults : ∀ field ∈ fields, ∀ value, field.2.2 = some value → value.strict = true)
    {outs : List (String × Json)} (h : fields.mapM (fieldValue entries) = some outs) :
    Json.strictFields outs = true := by
  induction fields generalizing outs with
  | nil =>
    cases h
    rfl
  | cons field fields ih =>
    simp only [List.mapM_cons, Option.bind_eq_bind, Option.pure_def] at h
    obtain ⟨out, hout, h⟩ := Option.bind_eq_some_iff.mp h
    obtain ⟨rest, hrest, h⟩ := Option.bind_eq_some_iff.mp h
    cases h
    obtain ⟨value, hvalue, rfl⟩ := Option.map_eq_some_iff.mp hout
    have htail := ih (fun field hfield => hdefaults field (List.mem_cons_of_mem _ hfield)) hrest
    rw [Json.strictFields, htail, Bool.and_true]
    rcases Option.or_eq_some_iff.mp hvalue with hread | ⟨-, hdefault⟩
    · exact Json.strict_of_lookup hentries hread
    · exact hdefaults field List.mem_cons_self value hdefault

mutual

/-- What a strict model makes of a value is strict. -/
theorem strict_of_validate {shape : Shape} (hstrict : shape.strict = true) :
    ∀ (value : Json), ∀ {out : Json}, validate coercions shape value = some out → out.strict = true
  | .null => by
    intro h
    simp only [validate, Option.ite_none_right_eq_some, Option.some.injEq] at h
    rw [← h.2]
    rfl
  | .bool _ => by
    intro h
    rw [validate] at h
    exact strict_of_validateScalar (by rwa [strict_peel]) h
  | .int _ => by
    intro h
    rw [validate] at h
    exact strict_of_validateScalar (by rwa [strict_peel]) h
  | .float _ => by
    intro h
    rw [validate] at h
    exact strict_of_validateScalar (by rwa [strict_peel]) h
  | .str _ => by
    intro h
    rw [validate] at h
    exact strict_of_validateScalar (by rwa [strict_peel]) h
  | .list values => by
    intro h
    rw [validate] at h
    rw [← strict_peel] at hstrict
    cases hshape : shape.peel with
    | items inner =>
      rw [hshape] at h
      rw [hshape, strict] at hstrict
      obtain ⟨outs, houts, rfl⟩ := Option.map_eq_some_iff.mp h
      exact strictItems_of_validate hstrict values houts
    | tuple shapes =>
      rw [hshape] at h
      rw [hshape, strict] at hstrict
      obtain ⟨outs, houts, rfl⟩ := Option.map_eq_some_iff.mp h
      exact strictItems_of_validateTuple shapes values hstrict houts
    | _ => simp [hshape] at h
  | .obj entries => by
    intro h
    rw [validate] at h
    rw [← strict_peel] at hstrict
    cases hshape : shape.peel with
    | texts =>
      rw [hshape] at h
      obtain ⟨outs, houts, rfl⟩ := Option.map_eq_some_iff.mp h
      exact strictFields_of_texts houts
    | record forbidsExtra fields =>
      rw [hshape] at h
      rw [hshape, strict] at hstrict
      obtain ⟨outs, houts, hfields⟩ := Option.bind_eq_some_iff.mp h
      obtain ⟨values, hvalues, rfl⟩ := Option.map_eq_some_iff.mp hfields
      exact strictFields_of_fieldValues (strictFields_of_validate hstrict entries houts)
        (fun field hfield value hvalue => strict_of_default hstrict hfield hvalue) hvalues
    | _ => simp [hshape] at h
termination_by structural value => value

theorem strictItems_of_validate {shape : Shape} (hstrict : shape.strict = true) :
    ∀ (values : List Json), ∀ {outs : List Json}, validateItems coercions shape values = some outs →
      Json.strictItems outs = true
  | [] => by
    intro h
    cases h
    rfl
  | value :: values => by
    intro h
    simp only [validateItems] at h
    split at h
    · rename_i out rest hvalue hrest
      cases h
      rw [Json.strictItems, strict_of_validate hstrict value hvalue,
        strictItems_of_validate hstrict values hrest]
      rfl
    · cases h
termination_by structural values => values

theorem strictItems_of_validateTuple :
    ∀ (shapes : List Shape) (values : List Json), ∀ {outs : List Json}, strictAll shapes = true →
      validateTuple coercions shapes values = some outs → Json.strictItems outs = true
  | [], [] => by
    intro hstrict h
    cases h
    rfl
  | [], _ :: _ => by
    intro hstrict h
    cases h
  | _ :: _, [] => by
    intro hstrict h
    cases h
  | shape :: shapes, value :: values => by
    intro hstrict h
    simp only [strictAll, Bool.and_eq_true] at hstrict
    simp only [validateTuple] at h
    split at h
    · rename_i out rest hvalue hrest
      cases h
      rw [Json.strictItems, strict_of_validate hstrict.1 value hvalue,
        strictItems_of_validateTuple shapes values hstrict.2 hrest]
      rfl
    · cases h
termination_by structural _ values => values

theorem strictFields_of_validate {fields : List (String × Shape × Option Json)}
    (hstrict : strictFields fields = true) {forbidsExtra : Bool} :
    ∀ (entries : List (String × Json)), ∀ {outs : List (String × Json)},
      validateEntries coercions forbidsExtra fields entries = some outs →
        Json.strictFields outs = true
  | [] => by
    intro h
    cases h
    rfl
  | (key, value) :: entries => by
    intro h
    simp only [validateEntries] at h
    split at h
    · rename_i shape hshape
      split at h
      · rename_i out rest hvalue hrest
        cases h
        rw [Json.strictFields,
          strict_of_validate (strict_of_fieldShape hstrict hshape) value hvalue,
          strictFields_of_validate hstrict entries hrest]
        rfl
      · cases h
    · split at h
      · cases h
      · exact strictFields_of_validate hstrict entries h
termination_by structural entries => entries

end

end

/-! ### The fields of an accepted record -/

section

variable {coercions : Coercions} {fields : List (String × Shape × Option Json)} {key : String}

theorem lookup_of_fieldValues {entries outs : List (String × Json)}
    (h : fields.mapM (fieldValue entries) = some outs) :
    Json.lookup key outs = (fields.find? fun field => field.1 == key).bind fun field =>
      (Json.lookup key entries).or field.2.2 := by
  induction fields generalizing outs with
  | nil =>
    cases h
    rfl
  | cons field fields ih =>
    simp only [List.mapM_cons, Option.bind_eq_bind, Option.pure_def] at h
    obtain ⟨out, hout, h⟩ := Option.bind_eq_some_iff.mp h
    obtain ⟨rest, hrest, h⟩ := Option.bind_eq_some_iff.mp h
    cases h
    obtain ⟨value, hvalue, rfl⟩ := Option.map_eq_some_iff.mp hout
    rw [Json.lookup, List.find?_cons]
    by_cases hname : field.1 = key
    · rw [if_pos hname, ← hvalue, hname, beq_self_eq_true]
      rfl
    · rw [if_neg hname, ih hrest, beq_false_of_ne hname]

theorem exists_of_validateEntries {forbidsExtra : Bool} {entries outs : List (String × Json)}
    {value : Json} (h : validateEntries coercions forbidsExtra fields entries = some outs)
    (hvalue : Json.lookup key outs = some value) :
    ∃ shape before, fieldShape fields key = some shape ∧
      validate coercions shape before = some value := by
  induction entries generalizing outs with
  | nil =>
    cases h
    cases hvalue
  | cons entry entries ih =>
    obtain ⟨name, before⟩ := entry
    simp only [validateEntries] at h
    split at h
    · rename_i shape hshape
      split at h
      · rename_i out rest hout hrest
        cases h
        rw [Json.lookup] at hvalue
        split at hvalue
        · rename_i hname
          cases hvalue
          exact ⟨shape, before, hname ▸ hshape, hout⟩
        · exact ih hrest hvalue
      · cases h
    · split at h
      · cases h
      · exact ih h hvalue

theorem exists_of_fieldValues {entries outs : List (String × Json)}
    (h : fields.mapM (fieldValue entries) = some outs) {field : String × Shape × Option Json}
    (hfield : field ∈ fields) :
    ∃ value, (Json.lookup field.1 entries).or field.2.2 = some value := by
  induction fields generalizing outs with
  | nil => cases hfield
  | cons head fields ih =>
    simp only [List.mapM_cons, Option.bind_eq_bind, Option.pure_def] at h
    obtain ⟨out, hout, h⟩ := Option.bind_eq_some_iff.mp h
    obtain ⟨rest, hrest, -⟩ := Option.bind_eq_some_iff.mp h
    rcases List.mem_cons.mp hfield with rfl | hfield
    · obtain ⟨value, hvalue, -⟩ := Option.map_eq_some_iff.mp hout
      exact ⟨value, hvalue⟩
    · exact ih hrest hfield

/-- A whole number that a record must have is there when the record is accepted. -/
theorem exists_int_of_required {forbidsExtra exact : Bool} {lower upper : Option Int}
    {data payload : List (String × Json)}
    (h : validate coercions (.record forbidsExtra fields) (.obj data) = some (.obj payload))
    (hfield : (fields.find? fun field => field.1 == key) =
      some (key, .whole exact lower upper, none)) :
    ∃ n, Json.lookup key payload = some (.int n) := by
  rw [validate] at h
  obtain ⟨entries, hentries, h⟩ := Option.bind_eq_some_iff.mp h
  obtain ⟨outs, houts, h⟩ := Option.map_eq_some_iff.mp h
  obtain rfl := Json.obj.inj h
  obtain ⟨value, hvalue⟩ := exists_of_fieldValues houts (List.mem_of_find?_eq_some hfield)
  rw [Option.or_none] at hvalue
  obtain ⟨shape, before, hshape, hvalidated⟩ := exists_of_validateEntries hentries hvalue
  rw [fieldShape, hfield] at hshape
  obtain rfl := Option.some.inj hshape
  have hscalar : ∃ n, value = .int n := by
    cases before with
    | null => simp [validate, isNullable] at hvalidated
    | list values => simp [validate, peel] at hvalidated
    | obj entries => simp [validate, peel] at hvalidated
    | _ =>
      rw [validate] at hvalidated
      exact exists_int_of_validateScalar hvalidated
  obtain ⟨n, rfl⟩ := hscalar
  exact ⟨n, by rw [lookup_of_fieldValues houts, hfield, Option.bind_some, hvalue]; rfl⟩

end

end Shape

end PatrolBot
