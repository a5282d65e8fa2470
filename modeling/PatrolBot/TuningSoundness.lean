import PatrolBot.TuningCanonical

/-!
# What the contract's validator lets a save do

For a clean catalog.  An accepted change is one the catalog permits, and an
accepted batch leaves every constraint it touches in force: the constraints may
form any graph, but one with no end in the batch has the operands it had.
-/

namespace PatrolBot.Tuning.Contract

/-! ### A permitted value -/

/-- The value has the declared type of the entry. -/
inductive HasType (entry : Fields) : Json → Prop where
  | number {value : Json} {x : ℚ} (declared : Json.get entry "type" = .str "number")
      (real : realOf value = some x) : HasType entry value
  | integer {n : Int} (declared : Json.get entry "type" = .str "integer") : HasType entry (.int n)
  | boolean {flag : Bool} (declared : Json.get entry "type" = .str "boolean") :
      HasType entry (.bool flag)

/-- The number a value is compared as, a `bool` being 0 or 1. -/
def magnitude (value : Json) : Option ℚ := (operand value).bind Number.real

/-- `low <= high`, or `low < high` where the end is not included. -/
def Respects (inclusive : Bool) (low high : ℚ) : Prop :=
  if inclusive then low ≤ high else low < high

/-- The number is inside the bounds of an entry. -/
structure WithinBounds (bounds : Fields) (x : ℚ) : Prop where
  lower : ∀ limit, realOf (Json.get bounds "lower") = some limit →
    Respects (Json.get bounds "lower_inclusive").isTrue limit x
  upper : ∀ limit, realOf (Json.get bounds "upper") = some limit →
    Respects (Json.get bounds "upper_inclusive").isTrue x limit

/-- What the catalog permits. -/
structure Permitted (entry : Fields) (value : Json) : Prop where
  unprotected : Json.get entry "protected" = .bool false
  applicable : Json.get entry "not_applicable" = .bool false
  editable : Json.get entry "accepts_edits" = .bool true
  typed : HasType entry value
  bounded : ∃ bounds x, Json.get entry "bounds" = .obj bounds ∧ magnitude value = some x ∧
    WithinBounds bounds x

variable {registry payload baseValues context : Json} {index : Entries} {entry bounds : Fields}
  {pid path : String} {value left right change : Json} {x limit : ℚ} {inclusive : Bool}
  {arithmetic : Arithmetic}

theorem operand_of_realOf (h : realOf value = some x) :
    ∃ number, operand value = some number ∧ number.real = some x := by
  unfold realOf at h
  split at h
  · exact ⟨_, rfl, h⟩
  · exact ⟨_, rfl, h⟩
  · cases h

theorem magnitude_of_realOf (h : realOf value = some x) : magnitude value = some x := by
  obtain ⟨number, hnumber, hreal⟩ := operand_of_realOf h
  rw [magnitude, hnumber, Option.bind_some, hreal]

theorem HasType.magnitude_isSome (h : HasType entry value) : ∃ x, magnitude value = some x := by
  cases h with
  | number declared real => exact ⟨_, magnitude_of_realOf real⟩
  | integer declared => exact ⟨_, rfl⟩
  | boolean declared => exact ⟨_, rfl⟩

/-- `_check_single_value` passes the values of the declared type. -/
theorem checkSingleValue_eq_nil {declared : String}
    (hdeclared : Json.get entry "type" = .str declared) :
    checkSingleValue entry value path = some [] ↔ HasType entry value := by
  have hlookup : Json.lookup "type" entry = some (.str declared) :=
    lookup_of_get hdeclared (by simp)
  have htext : ∀ text, isText (.str declared) text = true ↔ Json.get entry "type" = .str text := by
    intro text
    rw [hdeclared]
    exact isText_iff
  simp only [checkSingleValue, hlookup, Option.bind_eq_bind, Option.bind_some]
  constructor
  · intro h
    split at h
    · rename_i hbool
      obtain ⟨flag, rfl⟩ := isBool_eq hbool
      exact .boolean ((htext _).mp (by simpa using h))
    · split at h
      · rename_i hnumeric
        split at h
        · cases h
        · rename_i hreal
          rw [Bool.not_eq_true, Option.isNone_eq_false_iff] at hreal
          obtain ⟨x, hx⟩ := Option.isSome_iff_exists.mp hreal
          rcases Bool.or_eq_true_iff.mp hnumeric with hnumber | hinteger
          · exact .number ((htext _).mp hnumber) hx
          · rw [reportIf_eq_nil, hinteger, Bool.true_and, Bool.not_eq_true,
              Option.isNone_eq_false_iff] at h
            cases value with
            | int n => exact .integer ((htext _).mp hinteger)
            | null | bool flag | float x | str text | list items | obj fields =>
              simp [strictInt] at h
      · cases h
  · intro h
    cases h with
    | number hnumber hreal =>
      rename_i x
      have hnotbool : isBool value = false := by
        cases value <;> simp_all [realOf, isBool]
      have hnumber := (htext _).mpr hnumber
      have hinteger : isText (.str declared) "integer" = false := by
        rw [isText_iff] at hnumber
        obtain rfl := Json.str.inj hnumber
        decide
      rw [hnotbool, hnumber, hinteger, hreal]
      rfl
    | integer hinteger =>
      have hinteger := (htext _).mpr hinteger
      simp only [isBool, hinteger, Bool.or_true, realOf, strictInt]
      rfl
    | boolean hboolean =>
      have hboolean := (htext _).mpr hboolean
      simp only [isBool, hboolean]
      rfl

theorem respects_iff_not_lt {low high : Number} {y : ℚ} (hlow : low.real = some x)
    (hhigh : high.real = some y) :
    (high.order.lt low.order = false ↔ Respects true x y) ∧
      (high.order.le low.order = false ↔ Respects false x y) := by
  rw [Number.order_of_real hlow, Number.order_of_real hhigh, PyFloat.finite_lt]
  constructor
  · rw [decide_eq_false_iff_not, not_lt]
    rfl
  · change decide (y ≤ x) = false ↔ x < y
    rw [decide_eq_false_iff_not, not_le]

/-- One side of the bounds: none, or a number with a flag for whether it is permitted. -/
theorem CleanBounds.oneSide (hbounds : CleanBounds bounds) {side inclusive : String}
    (hside : side ∈ ["lower", "upper"])
    (hinclusive : inclusive ∈ ["lower_inclusive", "upper_inclusive"]) :
    (∃ flag, Json.get bounds inclusive = .bool flag ∧
        getOr bounds inclusive (.bool true) = .bool flag) ∧
      (Json.get bounds side = .null ∨ ∃ limit bound, isNull (Json.get bounds side) = false ∧
        realOf (Json.get bounds side) = some limit ∧
        operand (Json.get bounds side) = some bound ∧ bound.real = some limit) := by
  constructor
  · obtain ⟨flag, hflag⟩ := hbounds.inclusive inclusive hinclusive
    exact ⟨flag, hflag, getOr_of_get hflag (by simp)⟩
  · rcases hbounds.side side hside with hnull | ⟨limit, hlimit⟩
    · exact Or.inl hnull
    · obtain ⟨bound, hbound, hvalue⟩ := operand_of_realOf hlimit
      have hnotnull : isNull (Json.get bounds side) = false := by
        cases hgiven : Json.get bounds side <;> simp_all [realOf, isNull]
      exact Or.inr ⟨limit, bound, hnotnull, hlimit, hbound, hvalue⟩

theorem belowLower_eq_nil (hbounds : CleanBounds bounds) (hx : magnitude value = some x) :
    belowLower entry bounds value path = some [] ↔
      ∀ limit, realOf (Json.get bounds "lower") = some limit →
        Respects (Json.get bounds "lower_inclusive").isTrue limit x := by
  obtain ⟨number, hnumber, hreal⟩ := Option.bind_eq_some_iff.mp hx
  obtain ⟨⟨flag, hflag, hgiven⟩, hnull | ⟨limit, bound, hnotnull, hlimit, hbound, hvalue⟩⟩ :=
    @CleanBounds.oneSide _ hbounds "lower" "lower_inclusive" (by simp) (by simp)
  · simp [belowLower, hnull, isNull, realOf]
  · have hcompare := respects_iff_not_lt hvalue hreal
    simp only [belowLower, hnotnull, hnumber, hbound, hgiven, hflag, hlimit, Json.truthy,
      Json.isTrue, Option.bind_eq_bind, Option.bind_some, Bool.false_eq_true, if_false,
      Option.some.injEq, forall_eq']
    cases flag with
    | false => simpa using hcompare.2
    | true => simpa using hcompare.1

theorem aboveUpper_eq_nil (hbounds : CleanBounds bounds) (hx : magnitude value = some x) :
    aboveUpper entry bounds value path = some [] ↔
      ∀ limit, realOf (Json.get bounds "upper") = some limit →
        Respects (Json.get bounds "upper_inclusive").isTrue x limit := by
  obtain ⟨number, hnumber, hreal⟩ := Option.bind_eq_some_iff.mp hx
  obtain ⟨⟨flag, hflag, hgiven⟩, hnull | ⟨limit, bound, hnotnull, hlimit, hbound, hvalue⟩⟩ :=
    @CleanBounds.oneSide _ hbounds "upper" "upper_inclusive" (by simp) (by simp)
  · simp [aboveUpper, hnull, isNull, realOf]
  · have hcompare := respects_iff_not_lt hreal hvalue
    simp only [aboveUpper, hnotnull, hnumber, hbound, hgiven, hflag, hlimit, Json.truthy,
      Json.isTrue, Option.bind_eq_bind, Option.bind_some, Bool.false_eq_true, if_false,
      Option.some.injEq, forall_eq']
    cases flag with
    | false => simpa using hcompare.2
    | true => simpa using hcompare.1

/-- `_check_bounds` passes the values inside the bounds. -/
theorem checkBounds_eq_nil (hgiven : Json.get entry "bounds" = .obj bounds)
    (hbounds : CleanBounds bounds) (hx : magnitude value = some x) :
    checkBounds entry value path = some [] ↔ WithinBounds bounds x := by
  rw [checkBounds, getOr_of_get hgiven (by simp)]
  simp only [reports_cons, reports_nil, and_true]
  rw [belowLower_eq_nil hbounds hx, aboveUpper_eq_nil hbounds hx]
  constructor
  · intro h
    exact ⟨h.1, h.2⟩
  · intro h
    exact ⟨h.lower, h.upper⟩

/-! ### A change -/

/-- Every entry is clean. -/
def CleanIndex (index : Entries) : Prop :=
  ∀ pid entry, (pid, entry) ∈ index → CleanEntry index entry

theorem cleanIndex (h : checkRegistry registry = some []) :
    CleanIndex (registryEntries registry) :=
  fun _ _ hentry => cleanEntry h hentry

/-- The parameter a change names and the value it gives it. -/
def namedChange : Json → Option (String × Json)
  | .obj fields => match Json.get fields "id" with
    | .str pid => some (pid, Json.get fields "value")
    | _ => none
  | _ => none

theorem checkEdit_eq_nil {fields : Fields} {resolved after : Values}
    (hentry : CleanEntry index entry) :
    checkEdit pid entry fields resolved path = some ([], after) ↔
      (∃ bounds x, HasType entry (Json.get fields "value") ∧
        Json.get entry "bounds" = .obj bounds ∧ magnitude (Json.get fields "value") = some x ∧
        WithinBounds bounds x) ∧ after = insertAt pid (Json.get fields "value") resolved := by
  obtain ⟨declared, -, hdeclared, -⟩ := hentry.typed
  obtain ⟨bounds, hgiven, hbounds⟩ := hentry.bounds
  constructor
  · intro h
    obtain ⟨mistyped, hmistyped, hrest⟩ := Option.bind_eq_some_iff.mp h
    split at hrest
    · rename_i hnone
      subst hnone
      have htyped := (checkSingleValue_eq_nil hdeclared).mp hmistyped
      obtain ⟨x, hx⟩ := htyped.magnitude_isSome
      obtain ⟨outside, houtside, hrest⟩ := Option.bind_eq_some_iff.mp hrest
      obtain ⟨rfl, rfl⟩ := Prod.mk.inj (Option.some.inj hrest)
      exact ⟨⟨bounds, x, htyped, hgiven, hx, (checkBounds_eq_nil hgiven hbounds hx).mp houtside⟩,
        rfl⟩
    · rename_i hsome
      exact absurd (Prod.mk.inj (Option.some.inj hrest)).1 hsome
  · intro h
    obtain ⟨⟨bounds', x, htyped, hgiven', hx, hwithin⟩, rfl⟩ := h
    obtain rfl := Json.obj.inj (hgiven'.symm.trans hgiven)
    simp only [checkEdit, (checkSingleValue_eq_nil hdeclared).mpr htyped,
      (checkBounds_eq_nil hgiven hbounds hx).mpr hwithin, Option.bind_eq_bind, Option.bind_some,
      if_true]
    rfl

/-- `_check_change` passes the changes the catalog permits. -/
theorem checkChange_eq_nil {resolved after : Values} (hindex : CleanIndex index) :
    checkChange change index resolved path = some ([], after) ↔
      ∃ pid value entry, namedChange change = some (pid, value) ∧
        hasPathInjection pid = false ∧ index.lookup pid = some entry ∧ Permitted entry value ∧
        after = insertAt pid value resolved := by
  have hrefused : ∀ {found : Problem}, (some ([found], resolved) : Checks) = some ([], after) →
      False := by
    intro found h
    cases h
  constructor
  · intro h
    unfold checkChange at h
    split at h
    · rename_i fields
      split at h
      · rename_i pid hid
        split at h
        · exact absurd h hrefused
        · rename_i hplain
          split at h
          · exact absurd h hrefused
          · rename_i entry hentry
            have hclean := hindex pid entry (mem_of_lookup hentry)
            have hflag : ∀ key ∈ entryFlags, ∃ flag, Json.get entry key = .bool flag :=
              hclean.flags
            obtain ⟨locked, hlocked⟩ := hflag "protected" (by decide)
            obtain ⟨foreign, hforeign⟩ := hflag "not_applicable" (by decide)
            obtain ⟨edits, hedits⟩ := hflag "accepts_edits" (by decide)
            rw [hlocked, hforeign, hedits] at h
            cases locked with
            | true => exact absurd h hrefused
            | false =>
              cases foreign with
              | true => exact absurd h hrefused
              | false =>
                cases edits with
                | false => exact absurd h hrefused
                | true =>
                  obtain ⟨⟨bounds, x, htyped, hgiven, hx, hwithin⟩, hafter⟩ :=
                    (checkEdit_eq_nil hclean).mp h
                  refine ⟨pid, Json.get fields "value", entry, ?_, by simpa using hplain, hentry,
                    ⟨hlocked, hforeign, hedits, htyped, bounds, x, hgiven, hx, hwithin⟩, hafter⟩
                  simp only [namedChange, hid]
      · exact absurd h hrefused
    · exact absurd h hrefused
  · intro h
    obtain ⟨pid, value, entry, hnamed, hplain, hentry, hpermitted, hafter⟩ := h
    unfold namedChange at hnamed
    split at hnamed
    · split at hnamed
      · rename_i id hid
        obtain ⟨rfl, rfl⟩ := Prod.mk.inj (Option.some.inj hnamed)
        obtain ⟨bounds, x, hgiven, hx, hwithin⟩ := hpermitted.bounded
        simp only [checkChange, hid, hplain, hentry, hpermitted.unprotected,
          hpermitted.applicable, hpermitted.editable, Json.truthy, Bool.false_eq_true, if_false,
          if_true]
        exact (checkEdit_eq_nil (hindex id entry (mem_of_lookup hentry))).mpr
          ⟨⟨bounds, x, hpermitted.typed, hgiven, hx, hwithin⟩, hafter⟩
      · cases hnamed
    · cases hnamed

/-! ### A batch -/

/-- What the loop has made of the changes `named`. -/
structure Took (index : Entries) (base named : Values) (batch : Batch) : Prop where
  errors : batch.errors = []
  changed : batch.changed = named.map Prod.fst
  distinct : (named.map Prod.fst).Nodup
  permitted : ∀ change ∈ named, ∃ entry, hasPathInjection change.1 = false ∧
    index.lookup change.1 = some entry ∧ Permitted entry change.2
  resolved : ∀ pid, batch.resolved.lookup pid = (named.lookup pid).or (base.lookup pid)

variable {base named resolved : Values} {batch after : Batch} {position : Nat}
  {changes : List Json}

theorem batchStep_errors (h : batchStep index batch position change = some after) :
    ∃ found, after.errors = batch.errors ++ found := by
  obtain ⟨⟨errors, resolved⟩, -, hrest⟩ := Option.bind_eq_some_iff.mp h
  simp only at hrest
  split at hrest
  · split at hrest
    · obtain rfl := Option.some.inj hrest
      exact ⟨_, List.append_assoc _ _ _⟩
    · obtain rfl := Option.some.inj hrest
      exact ⟨_, rfl⟩
  · obtain rfl := Option.some.inj hrest
    exact ⟨_, rfl⟩

/-- The change a batch can take next. -/
def Takes (index : Entries) (change : Json) (pid : String) (value : Json) : Prop :=
  namedChange change = some (pid, value) ∧ ∃ entry, hasPathInjection pid = false ∧
    index.lookup pid = some entry ∧ Permitted entry value

theorem Takes.countedId (h : Takes index change pid value) :
    countedId change index = some pid := by
  obtain ⟨hnamed, entry, -, hentry, -⟩ := h
  unfold namedChange at hnamed
  unfold Contract.countedId
  split at hnamed
  · split at hnamed
    · rename_i id hid
      obtain ⟨rfl, -⟩ := Prod.mk.inj (Option.some.inj hnamed)
      simp [hid, hentry]
    · cases hnamed
  · cases hnamed

/-- A turn that finds nothing takes a permitted change of a parameter that has
    had none. -/
theorem batchStep_clean (position : Nat) (hindex : CleanIndex index) (hnone : batch.errors = []) :
    batchStep index batch position change = some after ∧ after.errors = [] ↔
      ∃ pid value, Takes index change pid value ∧ pid ∉ batch.changed ∧
        after = ⟨[], insertAt pid value batch.resolved, batch.changed ++ [pid]⟩ := by
  constructor
  · intro h
    obtain ⟨hstep, hafter⟩ := h
    obtain ⟨⟨errors, resolved⟩, hchange, hrest⟩ := Option.bind_eq_some_iff.mp hstep
    simp only [hnone, List.nil_append] at hrest
    have hquiet : errors = [] := by
      split at hrest
      · split at hrest
        · obtain rfl := Option.some.inj hrest
          exact (List.append_eq_nil_iff.mp hafter).1
        · obtain rfl := Option.some.inj hrest
          exact hafter
      · obtain rfl := Option.some.inj hrest
        exact hafter
    subst hquiet
    obtain ⟨pid, value, entry, hnamed, hplain, hentry, hpermitted, rfl⟩ :=
      (checkChange_eq_nil hindex).mp hchange
    have htakes : Takes index change pid value := ⟨hnamed, entry, hplain, hentry, hpermitted⟩
    simp only [htakes.countedId, if_true] at hrest
    split at hrest
    · obtain rfl := Option.some.inj hrest
      cases hafter
    · rename_i hnew
      exact ⟨pid, value, htakes, hnew, (Option.some.inj hrest).symm⟩
  · intro h
    obtain ⟨pid, value, htakes, hnew, rfl⟩ := h
    have hcounted := htakes.countedId
    obtain ⟨hnamed, entry, hplain, hentry, hpermitted⟩ := htakes
    have hchange : checkChange change index batch.resolved ("changes/" ++ toString position) =
        some ([], insertAt pid value batch.resolved) :=
      (checkChange_eq_nil hindex).mpr
        ⟨pid, value, entry, hnamed, hplain, hentry, hpermitted, rfl⟩
    refine ⟨?_, rfl⟩
    simp only [batchStep, hchange, Option.bind_eq_bind, Option.bind_some, hcounted, if_true,
      if_neg hnew, hnone, List.append_nil]
    rfl

theorem lookup_eq_none {values : Values} (h : pid ∉ values.map Prod.fst) :
    values.lookup pid = none := by
  rw [List.lookup_eq_none_iff]
  intro made hmade
  rw [bne_iff_ne]
  rintro rfl
  exact h (List.mem_map_of_mem hmade)

theorem Took.step (h : Took index base named batch) (htakes : Takes index change pid value)
    (hnew : pid ∉ batch.changed) :
    Took index base (named ++ [(pid, value)])
      ⟨[], insertAt pid value batch.resolved, batch.changed ++ [pid]⟩ := by
  have hfresh : pid ∉ named.map Prod.fst := h.changed ▸ hnew
  constructor
  · rfl
  · simp [h.changed]
  · rw [List.map_append, List.nodup_append]
    refine ⟨h.distinct, by simp, ?_⟩
    intro other hother last hlast
    rw [List.map_cons, List.map_nil, List.mem_singleton] at hlast
    intro heq
    have hsame : other = pid := heq.trans hlast
    exact hfresh (hsame ▸ hother)
  · intro made hmade
    rcases List.mem_append.mp hmade with hold | hlast
    · exact h.permitted made hold
    · obtain rfl := List.mem_singleton.mp hlast
      exact htakes.2
  · intro other
    rw [List.lookup_append]
    by_cases hother : other = pid
    · subst hother
      simp [lookup_insertAt_self, lookup_eq_none hfresh]
    · have hsingle : ([(pid, value)] : Values).lookup other = none :=
        lookup_eq_none (by simpa using hother)
      rw [lookup_insertAt_ne hother, h.resolved, hsingle, Option.or_none]

theorem batchRun_errors (h : batchRun index batch position changes = some after) :
    ∃ found, after.errors = batch.errors ++ found := by
  induction changes generalizing batch position with
  | nil =>
    obtain rfl := Option.some.inj h
    exact ⟨[], (List.append_nil _).symm⟩
  | cons change changes ih =>
    obtain ⟨next, hstep, hrun⟩ := Option.bind_eq_some_iff.mp h
    obtain ⟨first, hfirst⟩ := batchStep_errors hstep
    obtain ⟨later, hlater⟩ := ih hrun
    exact ⟨first ++ later, by rw [hlater, hfirst, List.append_assoc]⟩

/-- A run that finds nothing has taken every change. -/
theorem Took.run (hindex : CleanIndex index) (h : Took index base named batch)
    (hrun : batchRun index batch position changes = some after) (hafter : after.errors = []) :
    ∃ more, changes.map namedChange = more.map some ∧
      Took index base (named ++ more) after := by
  induction changes generalizing batch named position with
  | nil =>
    obtain rfl := Option.some.inj hrun
    exact ⟨[], rfl, by rw [List.append_nil]; exact h⟩
  | cons change changes ih =>
    obtain ⟨next, hstep, hrest⟩ := Option.bind_eq_some_iff.mp hrun
    obtain ⟨found, hfound⟩ := batchRun_errors hrest
    have hnext : next.errors = [] := (List.append_eq_nil_iff.mp (hfound ▸ hafter)).1
    obtain ⟨pid, value, htakes, hnew, rfl⟩ := (batchStep_clean _ hindex h.errors).mp ⟨hstep, hnext⟩
    obtain ⟨more, hmore, htook⟩ := ih (h.step htakes hnew) hrest
    refine ⟨(pid, value) :: more, ?_, ?_⟩
    · rw [List.map_cons, List.map_cons, htakes.1, hmore]
    · rw [List.append_cons]
      exact htook

/-- Permitted changes of different parameters are all taken. -/
theorem Took.complete (position : Nat) (hindex : CleanIndex index)
    (h : Took index base named batch)
    {more : Values} (hnamed : changes.map namedChange = more.map some)
    (hdistinct : ((named ++ more).map Prod.fst).Nodup)
    (hpermitted : ∀ change ∈ more, ∃ entry, hasPathInjection change.1 = false ∧
      index.lookup change.1 = some entry ∧ Permitted entry change.2) :
    ∃ after, batchRun index batch position changes = some after ∧
      Took index base (named ++ more) after := by
  induction changes generalizing batch named more position with
  | nil =>
    obtain rfl : more = [] := List.map_eq_nil_iff.mp hnamed.symm
    exact ⟨batch, rfl, by rw [List.append_nil]; exact h⟩
  | cons change changes ih =>
    cases more with
    | nil => cases hnamed
    | cons made more =>
      obtain ⟨pid, value⟩ := made
      obtain ⟨hchange, hrest⟩ := List.cons_eq_cons.mp hnamed
      have htakes : Takes index change pid value :=
        ⟨hchange, hpermitted (pid, value) List.mem_cons_self⟩
      have hnew : pid ∉ batch.changed := by
        rw [h.changed]
        rw [List.map_append, List.nodup_append] at hdistinct
        intro hmem
        exact hdistinct.2.2 pid hmem pid (by simp) rfl
      obtain ⟨hstep, -⟩ := (batchStep_clean position hindex h.errors).mpr
        ⟨pid, value, htakes, hnew, rfl⟩
      rw [List.append_cons] at hdistinct
      obtain ⟨after, hrun, htook⟩ := ih (position + 1) (h.step htakes hnew) hrest
        hdistinct fun change hmem => hpermitted change (List.mem_cons_of_mem _ hmem)
      refine ⟨after, ?_, ?_⟩
      · simp only [batchRun, hstep, Option.bind_eq_bind, Option.bind_some, hrun]
      · rw [List.append_cons]
        exact htook

/-! ### Constraints -/

/-- `source + target` is `equals`, as the arithmetic computes and compares it. -/
def SumHolds (arithmetic : Arithmetic) (edge : Edge) (left right : Json) : Prop :=
  ∃ first second total tolerance, operand left = some first ∧ operand right = some second ∧
    operand edge.equals = some total ∧ operand edge.tolerance = some tolerance ∧
    arithmetic.exceeds first second total tolerance = some false

/-- A constraint over two values. -/
structure Between (arithmetic : Arithmetic) (edge : Edge) (left right : Json) : Prop where
  numbers : ∃ low high, realOf left = some low ∧ realOf right = some high ∧
    (edge.kind = .str "less_than_or_equal" → low ≤ high)
  sum : edge.kind = .str "sum_equals" → SumHolds arithmetic edge left right

/-- A constraint in a configuration. -/
def Edge.Holds (arithmetic : Arithmetic) (edge : Edge) (value : String → Json) : Prop :=
  ∃ target, edge.target = .str target ∧
    Between arithmetic edge (value edge.source) (value target)

/-- An edge of a clean catalog. -/
structure CleanEdge (index : Entries) (edge : Edge) : Prop where
  source : edge.source ∈ index.map Prod.fst
  target : ∃ target, edge.target = .str target ∧ target ∈ index.map Prod.fst
  kind : edge.kind = .str "less_than_or_equal" ∨ edge.kind = .str "sum_equals"
  sum : edge.kind = .str "sum_equals" → ∃ total tolerance, realOf edge.equals = some total ∧
    realOf edge.tolerance = some tolerance ∧ 0 ≤ tolerance

variable {edge : Edge} {edges : List Edge} {changed : List String}

theorem edgeOf_clean {fields : Fields} (hsource : pid ∈ index.map Prod.fst)
    (h : CleanDependency index fields) :
    ∃ edge, edgeOf pid (.obj fields) = some [edge] ∧ CleanEdge index edge := by
  obtain ⟨target, htarget, hmem⟩ := h.target
  have htargetkey := lookup_of_get htarget (by simp)
  have hkindkey : Json.lookup "kind" fields = some (Json.get fields "kind") :=
    lookup_of_get rfl (by rcases h.kind with hkind | hkind <;> simp [hkind])
  refine ⟨⟨pid, .str target, Json.get fields "kind", Json.get fields "equals",
    getOr fields "tolerance" defaultTolerance⟩, ?_, ⟨hsource, ⟨target, rfl, hmem⟩, h.kind, h.sum⟩⟩
  simp only [edgeOf, htargetkey, hkindkey, Option.bind_eq_bind, Option.bind_some]
  rfl

theorem entryEdges_clean (hsource : pid ∈ index.map Prod.fst) (h : CleanEntry index entry) :
    ∃ edges, entryEdges pid entry = some edges ∧ ∀ edge ∈ edges, CleanEdge index edge := by
  obtain ⟨dependencies, hgiven, hall⟩ := h.dependencies
  rw [entryEdges, getOr_of_get hgiven (by simp)]
  apply exists_reports
  intro check hcheck
  obtain ⟨dependency, hmem, rfl⟩ := List.mem_map.mp hcheck
  obtain ⟨fields, rfl, hclean⟩ := hall dependency hmem
  obtain ⟨edge, hedge, hcleanEdge⟩ := edgeOf_clean hsource hclean
  exact ⟨[edge], hedge, by simpa using hcleanEdge⟩

/-- The edges of a clean catalog join its parameters. -/
theorem dependencyEdges_clean (hindex : CleanIndex index) :
    ∃ edges, dependencyEdges index = some edges ∧ ∀ edge ∈ edges, CleanEdge index edge := by
  apply exists_reports
  intro check hcheck
  obtain ⟨found, hmem, rfl⟩ := List.mem_map.mp hcheck
  exact entryEdges_clean (List.mem_map_of_mem hmem) (hindex found.1 found.2 hmem)

theorem sumErrors_eq_nil : sumErrors arithmetic edge left right = some [] ↔
    SumHolds arithmetic edge left right := by
  constructor
  · intro h
    obtain ⟨first, hfirst, h⟩ := Option.bind_eq_some_iff.mp h
    obtain ⟨second, hsecond, h⟩ := Option.bind_eq_some_iff.mp h
    obtain ⟨total, htotal, h⟩ := Option.bind_eq_some_iff.mp h
    obtain ⟨tolerance, htolerance, h⟩ := Option.bind_eq_some_iff.mp h
    obtain ⟨sum, -, h⟩ := Option.bind_eq_some_iff.mp h
    obtain ⟨far, hfar, h⟩ := Option.bind_eq_some_iff.mp h
    rw [reportIf_eq_nil, Bool.not_eq_true] at h
    subst h
    exact ⟨first, second, total, tolerance, hfirst, hsecond, htotal, htolerance, hfar⟩
  · intro h
    obtain ⟨first, second, total, tolerance, hfirst, hsecond, htotal, htolerance, hfar⟩ := h
    obtain ⟨sum, hsum, -⟩ := Option.bind_eq_some_iff.mp hfar
    simp only [sumErrors, hfirst, hsecond, htotal, htolerance, hsum, hfar, Option.bind_eq_bind,
      Option.bind_some]
    rfl

/-- An edge of a clean catalog is reported unless it holds. -/
theorem operandErrors_eq_nil (hedge : CleanEdge index edge) :
    operandErrors arithmetic edge left right = some [] ↔ Between arithmetic edge left right := by
  unfold operandErrors
  constructor
  · intro h
    split at h
    · rename_i low high hlow hhigh
      split at h
      · rename_i hkind
        have hle := isText_iff.mp hkind
        rw [reportIf_eq_nil, not_lt] at h
        exact ⟨⟨low, high, hlow, hhigh, fun _ => h⟩, fun hsum => by simp [hle] at hsum⟩
      · rename_i hkind
        rw [isText_iff] at hkind
        have hsum := hedge.kind.resolve_left hkind
        rw [if_pos (isText_iff.mpr hsum)] at h
        exact ⟨⟨low, high, hlow, hhigh, fun hle => absurd hle hkind⟩,
          fun _ => sumErrors_eq_nil.mp h⟩
    · cases h
  · intro h
    obtain ⟨low, high, hlow, hhigh, hle⟩ := h.numbers
    simp only [hlow, hhigh]
    rcases hedge.kind with hkind | hkind
    · rw [if_pos (isText_iff.mpr hkind), reportIf_eq_nil, not_lt]
      exact hle hkind
    · have hother : ¬isText edge.kind "less_than_or_equal" = true := by simp [hkind, isText, asText]
      rw [if_neg hother, if_pos (isText_iff.mpr hkind)]
      exact sumErrors_eq_nil.mpr (h.sum hkind)

/-- An edge with an end among the changed parameters. -/
def Edge.Touches (edge : Edge) (changed : List String) : Prop :=
  edge.source ∈ changed ∨ ∃ target, edge.target = .str target ∧ target ∈ changed

theorem touched_iff (hedge : CleanEdge index edge) :
    ∃ flag, edge.touched changed = some flag ∧ (flag = true ↔ edge.Touches changed) := by
  obtain ⟨target, htarget, -⟩ := hedge.target
  unfold Edge.touched Edge.Touches
  by_cases hsource : edge.source ∈ changed
  · exact ⟨true, by rw [if_pos (List.contains_iff_mem.mpr hsource)], by simp [hsource]⟩
  · refine ⟨changed.contains target, ?_, ?_⟩
    · rw [if_neg fun h => hsource (List.contains_iff_mem.mp h), htarget]
      rfl
    · simp [htarget, hsource]

/-- `_dependency_errors` passes when every edge with a changed end holds. -/
theorem edgeErrors_eq_nil (hedge : CleanEdge index edge) :
    edgeErrors arithmetic changed index resolved edge = some [] ↔
      (edge.Touches changed →
        edge.Holds arithmetic fun pid => valueOf pid resolved index) := by
  obtain ⟨target, htarget, -⟩ := hedge.target
  obtain ⟨flag, hflag, htouches⟩ := @touched_iff index edge changed hedge
  have hright : resolvedValue edge.target resolved index =
      some (valueOf target resolved index) := by
    rw [htarget]
    rfl
  simp only [edgeErrors, hflag, Option.bind_eq_bind, Option.bind_some, hright]
  cases flag with
  | false =>
    have huntouched : ¬edge.Touches changed := fun h => by simpa using htouches.mpr h
    simp [huntouched]
  | true =>
    have htouched : edge.Touches changed := htouches.mp rfl
    rw [if_pos rfl, operandErrors_eq_nil hedge]
    constructor
    · intro h _
      exact ⟨target, htarget, h⟩
    · intro h
      obtain ⟨target', htarget', hbetween⟩ := h htouched
      obtain rfl := Json.str.inj (htarget'.symm.trans htarget)
      exact hbetween

theorem dependencyErrors_eq_nil (hedges : dependencyEdges index = some edges)
    (hclean : ∀ edge ∈ edges, CleanEdge index edge) :
    dependencyErrors arithmetic changed index resolved = some [] ↔
      ∀ edge ∈ edges, edge.Touches changed →
        edge.Holds arithmetic fun pid => valueOf pid resolved index := by
  unfold dependencyErrors
  by_cases hnone : changed = []
  · subst hnone
    simp [Edge.Touches]
  · rw [if_neg hnone, hedges, Option.bind_eq_bind, Option.bind_some, reports_eq_nil,
      List.forall_mem_map]
    constructor
    · intro h edge hedge
      exact (edgeErrors_eq_nil (hclean edge hedge)).mp (h edge hedge)
    · intro h edge hedge
      exact (edgeErrors_eq_nil (hclean edge hedge)).mpr (h edge hedge)

/-! ### A save -/

/-- The configuration: the changes over the base over the defaults. -/
def merged (index : Entries) (base changes : Values) (pid : String) : Json :=
  match changes.lookup pid with
  | some value => value
  | none => valueOf pid base index

theorem Took.valueOf_eq (h : Took index base named batch) (pid : String) :
    valueOf pid batch.resolved index = merged index base named pid := by
  unfold merged valueOf
  rw [h.resolved]
  cases named.lookup pid <;> rfl

/-- What the checks of a save ask of its changes, and of the constraints they
    touch. -/
structure Admits (arithmetic : Arithmetic) (index : Entries) (base named : Values)
    (edges : List Edge) : Prop where
  distinct : (named.map Prod.fst).Nodup
  permitted : ∀ change ∈ named, ∃ entry, hasPathInjection change.1 = false ∧
    index.lookup change.1 = some entry ∧ Permitted entry change.2
  holds : ∀ edge ∈ edges, edge.Touches (named.map Prod.fst) →
    edge.Holds arithmetic (merged index base named)

theorem saveErrors_eq_nil (hindex : CleanIndex index) (hedges : dependencyEdges index = some edges)
    (hclean : ∀ edge ∈ edges, CleanEdge index edge) :
    saveErrors arithmetic index baseValues (.list changes) = some [] ↔
      baseErrors baseValues index = some [] ∧ ∃ named, changes.map namedChange = named.map some ∧
        Admits arithmetic index (baseResolved baseValues) named edges := by
  have hstart : Took index (baseResolved baseValues) [] ⟨[], baseResolved baseValues, []⟩ :=
    ⟨rfl, rfl, List.nodup_nil, by simp, fun _ => rfl⟩
  constructor
  · intro h
    obtain ⟨found, hfound, h⟩ := Option.bind_eq_some_iff.mp h
    obtain ⟨batch, hrun, h⟩ := Option.bind_eq_some_iff.mp h
    obtain ⟨broken, hbroken, h⟩ := Option.bind_eq_some_iff.mp h
    obtain ⟨hquiet, rfl⟩ := List.append_eq_nil_iff.mp (Option.some.inj h)
    obtain ⟨later, hlater⟩ := batchRun_errors hrun
    obtain rfl : found = [] := (List.append_eq_nil_iff.mp (hlater ▸ hquiet)).1
    obtain ⟨named, hnamed, htook⟩ := hstart.run hindex hrun hquiet
    rw [List.nil_append] at htook
    rw [htook.changed, dependencyErrors_eq_nil hedges hclean, funext htook.valueOf_eq] at hbroken
    exact ⟨hfound, named, hnamed, htook.distinct, htook.permitted, hbroken⟩
  · intro h
    obtain ⟨hbase, named, hnamed, hadmits⟩ := h
    obtain ⟨batch, hrun, htook⟩ :=
      hstart.complete 0 hindex hnamed hadmits.distinct hadmits.permitted
    rw [List.nil_append] at htook
    have hbroken : dependencyErrors arithmetic batch.changed index batch.resolved = some [] := by
      rw [htook.changed, dependencyErrors_eq_nil hedges hclean, funext htook.valueOf_eq]
      exact hadmits.holds
    simp only [saveErrors, hbase, hrun, hbroken, htook.errors, Option.bind_eq_bind,
      Option.bind_some]
    rfl

/-- An edge no change touches has the operands it had. -/
theorem Edge.Holds.untouched (h : edge.Holds arithmetic (merged index base []))
    (huntouched : ¬edge.Touches (named.map Prod.fst)) :
    edge.Holds arithmetic (merged index base named) := by
  have hsame : ∀ pid, pid ∉ named.map Prod.fst →
      merged index base named pid = merged index base [] pid := by
    intro pid hpid
    simp only [merged, lookup_eq_none hpid, List.lookup_nil]
  obtain ⟨target, htarget, hbetween⟩ := h
  refine ⟨target, htarget, ?_⟩
  rw [hsame edge.source fun hmem => huntouched (Or.inl hmem),
    hsame target fun hmem => huntouched (Or.inr ⟨target, htarget, hmem⟩)]
  exact hbetween

theorem Admits.nil : Admits arithmetic index base [] edges :=
  ⟨List.nodup_nil, by simp, by simp [Edge.Touches]⟩

/-- The changes of a payload. -/
def changesOf (fields : Fields) : List Json := (asList (Json.get fields "changes")).getD []

theorem saveErrors_of_semantic {fields : Fields}
    (hsave : Json.get fields "operation" = .str "save")
    (hkind : Json.get fields "kind" ≠ .str "tuning_state_snapshot")
    (h : semanticErrors arithmetic (.obj fields) registry baseValues context = some []) :
    saveErrors arithmetic (registryEntries registry) baseValues (Json.get fields "changes") =
      some [] := by
  have hplain : ¬isText (Json.get fields "kind") "tuning_state_snapshot" = true :=
    fun htext => hkind (isText_iff.mp htext)
  have hknown : ¬(!isNull (.str "save") &&
      !operations.any fun name => isText (.str "save") name) = true := by decide
  have htext : isText (.str "save") "save" = true := by decide
  simp only [semanticErrors, hsave, if_neg hknown, if_neg hplain, htext, if_true,
    reports_cons] at h
  exact h.2.2.2.2.1

/-- What an accepted save leaves: permitted changes of different parameters, and
    every constraint they touch in force. -/
theorem exists_admits {fields : Fields} (hclean : checkRegistry registry = some [])
    (hsave : Json.get fields "operation" = .str "save")
    (hkind : Json.get fields "kind" ≠ .str "tuning_state_snapshot")
    (hok : semanticErrors arithmetic (.obj fields) registry baseValues context = some []) :
    ∃ named edges, (changesOf fields).map namedChange = named.map some ∧
      dependencyEdges (registryEntries registry) = some edges ∧
      (∀ edge ∈ edges, CleanEdge (registryEntries registry) edge) ∧
      Admits arithmetic (registryEntries registry) (baseResolved baseValues) named edges := by
  have hindex := cleanIndex hclean
  obtain ⟨edges, hedges, hall⟩ := dependencyEdges_clean hindex
  have hquiet := saveErrors_of_semantic hsave hkind hok
  unfold changesOf
  cases hchanges : Json.get fields "changes" with
  | list changes =>
    rw [hchanges, saveErrors_eq_nil hindex hedges hall] at hquiet
    obtain ⟨-, named, hnamed, hadmits⟩ := hquiet
    exact ⟨named, edges, hnamed, hedges, hall, hadmits⟩
  | null | bool flag | int n | float x | str text | obj value =>
    exact ⟨[], edges, rfl, hedges, hall, Admits.nil⟩

/-- The exact reading of a sum the doubles let pass: equal for integers, and near
    for the rest. -/
def Edge.NearlyHolds (edge : Edge) (value : String → Json) : Prop :=
  edge.kind = .str "sum_equals" →
    ∃ target left right total tolerance, edge.target = .str target ∧
      realOf (value edge.source) = some left ∧ realOf (value target) = some right ∧
      realOf edge.equals = some total ∧ realOf edge.tolerance = some tolerance ∧
      |left + right - total| ≤
        tolerance + 3 * Arithmetic.slack (|left| + |right| + |total|) ∧
      ((strictInt (value edge.source)).isSome → (strictInt (value target)).isSome →
        (strictInt edge.equals).isSome → |left + right - total| ≤ tolerance)

theorem operand_real {number : Number} (hreal : realOf value = some x)
    (hoperand : operand value = some number) : number.real = some x := by
  obtain ⟨found, hfound, hx⟩ := operand_of_realOf hreal
  obtain rfl := Option.some.inj (hfound.symm.trans hoperand)
  exact hx

/-- The operand of an integer, and its value. -/
theorem operand_int {number : Number} (hint : (strictInt value).isSome = true)
    (hreal : realOf value = some x) (hoperand : operand value = some number) :
    ∃ n : Int, number = .int n ∧ x = n := by
  cases value with
  | int n =>
    obtain rfl := Option.some.inj hoperand
    exact ⟨n, rfl, (Option.some.inj hreal).symm⟩
  | null | bool flag | float y | str text | list items | obj fields => cases hint

theorem Edge.Holds.nearly {valuation : String → Json}
    (h : edge.Holds .binary64 valuation) (hclean : CleanEdge index edge) :
    edge.NearlyHolds valuation := by
  intro hkind
  obtain ⟨target, htarget, hbetween⟩ := h
  obtain ⟨low, high, hlow, hhigh, -⟩ := hbetween.numbers
  obtain ⟨first, second, total, tolerance, hfirst, hsecond, htotal, htolerance, hfar⟩ :=
    hbetween.sum hkind
  obtain ⟨sum, allowed, hsum, hallowed, -⟩ := hclean.sum hkind
  have hrealTolerance := operand_real hallowed htolerance
  refine ⟨target, low, high, sum, allowed, htarget, hlow, hhigh, hsum, hallowed, ?_, ?_⟩
  · exact Arithmetic.le_of_exceeds (operand_real hlow hfirst) (operand_real hhigh hsecond)
      (operand_real hsum htotal) hrealTolerance hfar
  · intro hleft hright hequals
    obtain ⟨l, rfl, rfl⟩ := operand_int hleft hlow hfirst
    obtain ⟨r, rfl, rfl⟩ := operand_int hright hhigh hsecond
    obtain ⟨t, rfl, rfl⟩ := operand_int hequals hsum htotal
    rw [Arithmetic.exceeds_int hrealTolerance] at hfar
    exact not_lt.mp (of_decide_eq_false (Option.some.inj hfar))

/-- A save the contract's validator has nothing against changes different
    parameters, each as the catalog permits, and every constraint it touches holds
    in the configuration it makes; where all held before, all hold after. -/
theorem save_sound {fields : Fields} (hclean : checkRegistry registry = some [])
    (hsave : Json.get fields "operation" = .str "save")
    (hkind : Json.get fields "kind" ≠ .str "tuning_state_snapshot")
    (hok : semanticErrors .binary64 (.obj fields) registry baseValues context = some []) :
    ∃ named edges, (changesOf fields).map namedChange = named.map some ∧
      dependencyEdges (registryEntries registry) = some edges ∧
      (named.map Prod.fst).Nodup ∧
      (∀ change ∈ named, ∃ entry, (registryEntries registry).lookup change.1 = some entry ∧
        Permitted entry change.2) ∧
      (∀ edge ∈ edges, edge.Touches (named.map Prod.fst) →
        edge.Holds .binary64 (merged (registryEntries registry) (baseResolved baseValues) named) ∧
        edge.NearlyHolds (merged (registryEntries registry) (baseResolved baseValues) named)) ∧
      ((∀ edge ∈ edges,
          edge.Holds .binary64 (merged (registryEntries registry) (baseResolved baseValues) [])) →
        ∀ edge ∈ edges, edge.Holds .binary64
          (merged (registryEntries registry) (baseResolved baseValues) named)) := by
  obtain ⟨named, edges, hnamed, hedges, hall, hadmits⟩ := exists_admits hclean hsave hkind hok
  refine ⟨named, edges, hnamed, hedges, hadmits.distinct, ?_, ?_, ?_⟩
  · intro change hchange
    obtain ⟨entry, -, hentry, hpermitted⟩ := hadmits.permitted change hchange
    exact ⟨entry, hentry, hpermitted⟩
  · intro edge hedge htouches
    have hholds := hadmits.holds edge hedge htouches
    exact ⟨hholds, hholds.nearly (hall edge hedge)⟩
  · intro hbefore edge hedge
    by_cases htouches : edge.Touches (named.map Prod.fst)
    · exact hadmits.holds edge hedge htouches
    · exact (hbefore edge hedge).untouched htouches

/-- Two shares that are to sum to `2^53`, which is where the doubles lie two apart. -/
def sharesRegistry : Json :=
  let whole : Json := .float (.finite (2 ^ 53))
  plainRegistry [
    plainEntry "share.left" "number" whole .null .null [.obj [("kind", .str "sum_equals"),
      ("target", .str "share.right"), ("equals", whole)]],
    plainEntry "share.right" "number" (.int 0) .null .null []]

def sharesEdge : Edge :=
  ⟨"share.left", .str "share.right", .str "sum_equals", .float (.finite (2 ^ 53)),
    defaultTolerance⟩

/-- The right share becomes 1. -/
def sharesSave : Fields :=
  [("operation", .str "save"),
    ("changes", .list [.obj [("id", .str "share.right"), ("value", .float (.finite 1))]])]

theorem sharesRegistry_clean : checkRegistry sharesRegistry = some [] :=
  report_eq_nil (by decide +kernel)

theorem sharesSave_quiet :
    semanticErrors .binary64 (.obj sharesSave) sharesRegistry .null .null = some [] :=
  report_eq_nil (by decide +kernel)

theorem save_sound_shares : ∃ named edges,
    (changesOf sharesSave).map namedChange = named.map some ∧
      dependencyEdges (registryEntries sharesRegistry) = some edges ∧
      (named.map Prod.fst).Nodup ∧
      (∀ change ∈ named, ∃ entry, (registryEntries sharesRegistry).lookup change.1 = some entry ∧
        Permitted entry change.2) ∧
      (∀ edge ∈ edges, edge.Touches (named.map Prod.fst) →
        edge.Holds .binary64 (merged (registryEntries sharesRegistry) (baseResolved .null) named) ∧
        edge.NearlyHolds (merged (registryEntries sharesRegistry) (baseResolved .null) named)) ∧
      ((∀ edge ∈ edges,
          edge.Holds .binary64 (merged (registryEntries sharesRegistry) (baseResolved .null) [])) →
        ∀ edge ∈ edges, edge.Holds .binary64
          (merged (registryEntries sharesRegistry) (baseResolved .null) named)) :=
  save_sound sharesRegistry_clean (by rfl) (by simp [sharesSave, Json.get, Json.lookup])
    sharesSave_quiet

/-- `2^53 + 1.0` is `2^53` in doubles, so the shares may sum to one more. -/
theorem sharesSave_inexact : checkRegistry sharesRegistry = some [] ∧
    semanticErrors .binary64 (.obj sharesSave) sharesRegistry .null .null = some [] ∧
    (changesOf sharesSave).map namedChange = [some ("share.right", .float (.finite 1))] ∧
    dependencyEdges (registryEntries sharesRegistry) = some [sharesEdge] ∧
    sharesEdge.Touches ["share.right"] ∧
    sharesEdge.Holds .exact (merged (registryEntries sharesRegistry) [] []) ∧
    ¬sharesEdge.Holds .exact (merged (registryEntries sharesRegistry) []
      [("share.right", .float (.finite 1))]) := by
  have hleft : ∀ named : Values, named.lookup "share.left" = none →
      merged (registryEntries sharesRegistry) [] named "share.left" =
        .float (.finite (2 ^ 53)) := by
    intro named hnone
    rw [merged, hnone]
    rfl
  refine ⟨sharesRegistry_clean, sharesSave_quiet, by rfl, by rfl, ?_, ?_, ?_⟩
  · exact Or.inr ⟨"share.right", rfl, List.mem_singleton_self _⟩
  · refine ⟨"share.right", rfl, ⟨⟨2 ^ 53, 0, congrArg realOf (hleft [] rfl), rfl, ?_⟩, ?_⟩⟩
    · exact fun hle => absurd hle (by simp [sharesEdge])
    · intro _
      exact ⟨.float (.finite (2 ^ 53)), .int 0, .float (.finite (2 ^ 53)), _,
        congrArg operand (hleft [] rfl), rfl, rfl, rfl, by decide +kernel⟩
  · intro h
    obtain ⟨target, htarget, hbetween⟩ := h
    obtain rfl := Json.str.inj htarget
    obtain ⟨first, second, total, tolerance, hfirst, hsecond, htotal, htolerance, hfar⟩ :=
      hbetween.sum rfl
    obtain rfl := Option.some.inj ((congrArg operand (hleft _ rfl)).symm.trans hfirst)
    obtain rfl : Number.float (.finite 1) = second := Option.some.inj hsecond
    obtain rfl : Number.float (.finite (2 ^ 53)) = total := Option.some.inj htotal
    obtain rfl := Option.some.inj htolerance
    revert hfar
    decide +kernel

end PatrolBot.Tuning.Contract
