import PatrolBot.TuningLab

/-!
# What an accepted receipt proves

The checker of a receipt and the lab that grades it are two programs.  Of some bounds of
the lab the checker has its own comparison of the same evidence; the others are left to
the word of the receipt.
-/

namespace PatrolBot.Tuning.Receipt

open Contract Lab

/-- The checks of a receipt. -/
def checksOf (receipt : Json) : List Fields :=
  match receipt with
  | .obj fields => checkObjects ((asList (Json.get fields "checks")).getD [])
  | _ => []

/-- A required check of the receipt that is marked as passing. -/
structure Passing (receipt : Json) (id : String) (check : Fields) : Prop where
  required : id ∈ requiredChecks
  mem : check ∈ checksOf receipt
  named : isText (Json.get check "id") id = true
  marked : passes check = true

/-- The evidence of each passing check is within the bounds of its grade. -/
def Sound (stdlib : Stdlib) (receipt : Json) : Prop :=
  ∀ id check, Passing receipt id check → (detailOf check).bind (grade stdlib id) = some true

/-! ### What the checker leaves -/

/-- All keys of the smoother are expected, and the two that the lab starts from were read
    back. -/
def keysExpected (detail : Fields) : Option Bool := do
  let readback ← asObject (Json.get detail "readback")
  let expected ← asObject (Json.get detail "expected")
  pure (smootherKeys.all (fun key => (Json.lookup key expected).isSome) &&
    ((Json.get readback "max_velocity").truthy && (Json.get readback "max_accel").truthy))

/-- The peaks come up to the lab's lower bounds. -/
def peaksReached (detail : Fields) : Option Bool := do
  let linear ← operand (Json.get detail "peak_linear")
  let angular ← operand (Json.get detail "peak_angular")
  pure (atMost (literal 0.25) linear && atMost (literal 0.60) angular)

/-- The bounds of the lab that the checker has no comparison for. -/
def unchecked (stdlib : Stdlib) (id : String) (check detail : Fields) : Option Bool :=
  if id = "vs_startup_readback" then keysExpected detail
  else if id = "vs_caps_reduced_and_symmetric" then limitsClose stdlib detail
  else if id = "vs_over_cap_input_clamped" then peaksReached detail
  else if id = "vs_hot_reload_max_velocity_effect" ∧
      isText (Json.get check "classification") "live_verified" = true then
    clampTightened stdlib detail
  else grade stdlib id detail

/-- The evidence of each passing check is within the bounds that the checker does not
    compare it with. -/
def RestWithin (stdlib : Stdlib) (receipt : Json) : Prop :=
  ∀ id check, Passing receipt id check →
    (detailOf check).bind (unchecked stdlib id check) = some true

/-! ### Comparisons -/

variable {stdlib : Stdlib} {value : Json} {number tolerance : Number} {c t : ℚ}

theorem obj_of_asObject {fields : Fields} (h : asObject value = some fields) :
    value = .obj fields := by
  cases value <;> simp_all [asObject]

theorem list_of_asList {items : List Json} (h : asList value = some items) :
    value = .list items := by
  cases value <;> simp_all [asList]

theorem le_of_lt_eq_false {x : PyFloat} (hx : x ≠ .nan) {y : ℚ}
    (h : PyFloat.lt (.finite y) x = false) : PyFloat.le x (.finite y) = true := by
  cases x with
  | finite x =>
    rw [PyFloat.finite_lt, decide_eq_false_iff_not, not_lt] at h
    exact decide_eq_true h
  | inf negative =>
    cases negative with
    | false => cases h
    | true => rfl
  | nan => exact absurd rfl hx

/-- A finite number as a float. -/
theorem toFloat_finite {x : PyFloat} (hnumber : number.order.isFinite = true)
    (h : Arithmetic.binary64.toFloat number = some x) : ∃ q, x = .finite q := by
  cases number with
  | int n =>
    obtain ⟨q, -, rfl⟩ := Option.map_eq_some_iff.mp h
    exact ⟨q, rfl⟩
  | float held =>
    obtain rfl := Option.some.inj h
    cases held with
    | finite q => exact ⟨q, rfl⟩
    | inf negative => cases hnumber
    | nan => cases hnumber

theorem abs_rounded_ne_nan (q : ℚ) : (PyFloat.finite q).rounded.abs ≠ .nan := by
  unfold PyFloat.rounded
  dsimp only
  split
  · exact PyFloat.noConfusion
  · exact PyFloat.noConfusion

/-- A difference from a constant is one of floats. -/
theorem sub_float (number : Number) (c : ℚ) :
    Arithmetic.binary64.sub number (.float (.finite c)) =
      (Arithmetic.binary64.toFloat number).map fun x =>
        .float (x.add (.finite (-c))).rounded := by
  have hbind : Arithmetic.binary64.sub number (.float (.finite c)) =
      (Arithmetic.binary64.toFloat number).bind fun x =>
        some (.float (x.add (.finite (-c))).rounded) := by
    cases number <;> rfl
  rw [hbind, Option.map_eq_bind]
  rfl

theorem floatOf_number (h : operand value = some number) :
    isNull value = false ∧ floatOf stdlib value = Arithmetic.binary64.toFloat number := by
  cases value <;> simp_all [operand, isNull, floatOf]

/-- What is not apart from a constant is close to it. -/
theorem close_of_apart (hvalue : operand value = some number)
    (hnumber : number.order.isFinite = true)
    (h : apart number (.float (.finite c)) (.float (.finite t)) = some false) :
    close stdlib value (.float (.finite c)) (.float (.finite t)) = some true := by
  obtain ⟨hnull, hfloat⟩ := @floatOf_number stdlib value number hvalue
  obtain ⟨difference, hsub, hfar⟩ := Option.map_eq_some_iff.mp h
  rw [sub_float] at hsub
  obtain ⟨x, hx, rfl⟩ := Option.map_eq_some_iff.mp hsub
  obtain ⟨q, rfl⟩ := toFloat_finite hnumber hx
  have hnear : atMost (Number.float ((PyFloat.finite q).add (.finite (-c))).rounded).abs
      (.float (.finite t)) = true := le_of_lt_eq_false (abs_rounded_ne_nan _) hfar
  have hexpected : Arithmetic.binary64.toFloat (.float (.finite c)) = some (.finite c) := rfl
  have hdifference : Arithmetic.binary64.sub (.float (.finite q)) (.float (.finite c)) =
      some (.float ((PyFloat.finite q).add (.finite (-c))).rounded) := rfl
  simp only [close, hnull, hfloat, hx, hexpected, hdifference, hnear, Bool.false_eq_true, if_false,
    Option.bind_eq_bind, Option.bind_some, Option.pure_def]

/-- What is not above a bound is at most the bound. -/
theorem atMost_of_above {bound : Number} {b : ℚ} (hbound : bound.order = .finite b)
    (hnumber : number.order.isFinite = true) (hvalue : operand value = some number)
    (h : above value bound = some false) : atMost number bound = true := by
  rw [above, hvalue, Option.map_some, Option.some_inj, hbound] at h
  rw [atMost, hbound]
  apply le_of_lt_eq_false _ h
  intro hnan
  rw [hnan] at hnumber
  cases hnumber

/-! ### Finite documents -/

theorem finiteTree_get {levels : Nat} {fields : Fields} (h : finiteTree (levels + 2) (.obj fields))
    (key : String) : finiteTree (levels + 1) (Json.get fields key) = true := by
  unfold Json.get
  cases hlookup : Json.lookup key fields with
  | none => rfl
  | some value =>
    rw [finiteTree, List.all_eq_true] at h
    rw [lookup_eq] at hlookup
    exact h _ (mem_of_lookup hlookup)

theorem isFinite_of_finiteTree {levels : Nat} (h : finiteTree (levels + 1) value = true)
    (hvalue : operand value = some number) : number.order.isFinite = true := by
  cases value with
  | null => cases hvalue
  | bool flag =>
    obtain rfl := Option.some.inj hvalue
    rfl
  | int n =>
    obtain rfl := Option.some.inj hvalue
    rfl
  | float x =>
    obtain rfl := Option.some.inj hvalue
    exact h
  | str text => cases hvalue
  | list items => cases hvalue
  | obj fields => cases hvalue

/-- All elements of a loop come out true. -/
theorem mapM_all_iff {α : Type} {f : α → Option Bool} {items : List α} :
    (do let found ← items.mapM f; pure (found.all id)) = some true ↔
      ∀ item ∈ items, f item = some true := by
  induction items with
  | nil => simp
  | cons item items ih =>
    rw [List.mapM_cons, List.forall_mem_cons, ← ih]
    cases f item with
    | none => simp
    | some found =>
      cases items.mapM f with
      | none => simp
      | some later => cases found <;> simp

/-! ### Caps and peaks -/

variable {detail : Fields} {key : String} {problem : Message} {levels : Nat}

/-- A value that is not the default is one of the document. -/
theorem get_of_getOr {default : Json} (h : getOr detail key default ≠ default) :
    getOr detail key default = Json.get detail key := by
  unfold getOr Json.get at *
  cases hlookup : Json.lookup key detail with
  | none => exact absurd (by rw [hlookup, Option.getD_none]) h
  | some value => rfl

theorem close_of_capErrors {cap : ℚ} (hfinite : finiteTree (levels + 2) (.obj detail) = true)
    (hmissing : apart (.int 9) (literal cap) (literal 1e-6) = some true)
    (h : capErrors detail key (literal cap) problem = some []) :
    close stdlib (Json.get detail key) (literal cap) (literal 1e-6) = some true := by
  obtain ⟨number, hvalue, h⟩ := Option.bind_eq_some_iff.mp h
  obtain ⟨far, hfar, h⟩ := Option.bind_eq_some_iff.mp h
  have hnear : far = false := Bool.eq_false_iff.mpr (reportIf_eq_nil.mp h)
  subst hnear
  have hheld : getOr detail key (.int 9) = Json.get detail key := by
    apply get_of_getOr
    intro hdefault
    rw [hdefault] at hvalue
    obtain rfl := Option.some.inj hvalue
    rw [hmissing] at hfar
    cases hfar
  rw [hheld] at hvalue
  exact close_of_apart hvalue (isFinite_of_finiteTree (finiteTree_get hfinite key) hvalue) hfar

theorem capsClose_of_capsErrors (hfinite : finiteTree (levels + 2) (.obj detail) = true)
    (h : capsErrors detail = some []) : capsClose stdlib detail = some true := by
  simp only [capsErrors, reports_cons, reports_nil, and_true] at h
  have hlinear : close stdlib (Json.get detail "configured_max_linear") curatedLinearCap
      (literal 1e-6) = some true := close_of_capErrors hfinite (by decide +kernel) h.1
  have hangular : close stdlib (Json.get detail "configured_max_angular") curatedAngularCap
      (literal 1e-6) = some true := close_of_capErrors hfinite (by decide +kernel) h.2
  rw [capsClose, hlinear, hangular]
  rfl

theorem peak_of_peakErrors {cap : Number} {limit : ℚ}
    (hfinite : finiteTree (levels + 2) (.obj detail) = true)
    (hlimit : Arithmetic.binary64.add cap boundEpsilon = some (literal limit))
    (hmissing : above (.int 9) (literal limit) = some true)
    (h : peakErrors detail key cap problem = some []) :
    ∃ peak, operand (Json.get detail key) = some peak ∧
      ∀ low, peakWithin low detail key cap = some (atMost low peak) := by
  simp only [peakErrors, hlimit, Option.bind_eq_bind, Option.bind_some] at h
  obtain ⟨exceeds, habove, h⟩ := Option.bind_eq_some_iff.mp h
  have hwithin : exceeds = false := Bool.eq_false_iff.mpr (reportIf_eq_nil.mp h)
  subst hwithin
  have hheld : getOr detail key (.int 9) = Json.get detail key := by
    apply get_of_getOr
    intro hdefault
    rw [hdefault, hmissing] at habove
    cases habove
  rw [hheld] at habove
  obtain ⟨peak, hpeak, -⟩ := Option.map_eq_some_iff.mp habove
  have hmost : atMost peak (literal limit) = true :=
    atMost_of_above rfl (isFinite_of_finiteTree (finiteTree_get hfinite key) hpeak) hpeak habove
  refine ⟨peak, hpeak, ?_⟩
  intro low
  simp only [peakWithin, hpeak, hlimit, hmost, Option.bind_eq_bind, Option.bind_some,
    Option.pure_def, Bool.and_true]

theorem enoughSamples_of_not_few (h : fewSamples (Json.get detail "samples") = false) :
    enoughSamples detail = some true := by
  unfold enoughSamples
  generalize Json.get detail "samples" = samples at h
  cases samples with
  | int n =>
    have hle : 5 ≤ n := not_lt.mp (of_decide_eq_false h)
    have hcast : ((5 : Int) : ℚ) ≤ n := by exact_mod_cast hle
    exact congrArg some (decide_eq_true hcast)
  | null => cases h
  | bool flag => cases h
  | float x => cases h
  | str text => cases h
  | list items => cases h
  | obj fields => cases h

/-- Of the peaks the checker leaves the lower bounds. -/
theorem boundsOk_iff (hfinite : finiteTree (levels + 2) (.obj detail) = true)
    (h : clampedErrors detail = some []) :
    boundsOk detail = some true ↔ peaksReached detail = some true := by
  simp only [clampedErrors, reports_cons, reports_nil, and_true, reportIf_eq_nil,
    Bool.not_eq_true] at h
  obtain ⟨hsamples, hlinear, hangular⟩ := h
  have hlinearLimit : Arithmetic.binary64.add linearCap boundEpsilon = some (literal 0.301) := by
    decide +kernel
  have hangularLimit : Arithmetic.binary64.add angularCap boundEpsilon =
      some (literal 0.701) := by decide +kernel
  obtain ⟨linear, hlinear, hlinearWithin⟩ :=
    peak_of_peakErrors hfinite hlinearLimit (by decide +kernel) hlinear
  obtain ⟨angular, hangular, hangularWithin⟩ :=
    peak_of_peakErrors hfinite hangularLimit (by decide +kernel) hangular
  have hbounds : boundsOk detail =
      some (true && atMost (literal 0.25) linear && atMost (literal 0.60) angular) := by
    have hlinearPeak : peakWithin (literal 0.25) detail "peak_linear" curatedLinearCap =
        some (atMost (literal 0.25) linear) := hlinearWithin _
    have hangularPeak : peakWithin (literal 0.60) detail "peak_angular" curatedAngularCap =
        some (atMost (literal 0.60) angular) := hangularWithin _
    simp only [boundsOk, enoughSamples_of_not_few hsamples, hlinearPeak, hangularPeak,
      Option.bind_eq_bind, Option.bind_some, Option.pure_def]
  simp only [hbounds, peaksReached, hlinear, hangular, Option.bind_eq_bind, Option.bind_some,
    Option.pure_def, Bool.true_and]

theorem truthy_of_isTrue (h : value.isTrue = true) : value.truthy = true := by
  cases value <;> simp_all [Json.isTrue, Json.truthy]

/-- Of the hot effect the checker leaves the readback and the peak. -/
theorem effectObserved_iff (h : hotErrors detail = some []) :
    effectObserved stdlib detail = some true ↔ clampTightened stdlib detail = some true := by
  simp only [hotErrors, reports_cons, reportIf_eq_nil, Bool.not_eq_true, Bool.not_eq_true',
    Bool.not_eq_false] at h
  obtain ⟨hsamples, haccepted, -⟩ := h
  simp only [effectObserved, enoughSamples_of_not_few hsamples, truthy_of_isTrue haccepted,
    Option.bind_eq_bind, Option.bind_some, Option.pure_def, Bool.true_and]
  cases clampTightened stdlib detail <;> simp

/-! ### The startup readback -/

variable {expected readback : Fields}

/-- What the checker has compared of one parameter the lab has matched. -/
theorem keyMatches_of_readbackErrors {values : Json}
    (hexpected : Json.lookup key expected = some values)
    (h : readbackErrors key values (Json.get readback key) = some []) :
    keyMatches expected readback key = some true := by
  unfold readbackErrors at h
  split at h
  · rename_i observed hobserved
    obtain ⟨items, hitems, h⟩ := Option.bind_eq_some_iff.mp h
    split at h
    · cases h
    · obtain ⟨far, hfar, h⟩ := Option.bind_eq_some_iff.mp h
      have hnear : far = false := Bool.eq_false_iff.mpr (reportIf_eq_nil.mp h)
      subst hnear
      have hlist : listOf (.list observed) = some observed := rfl
      have hnull : isNull (.list observed) = false := rfl
      simp only [keyMatches, hobserved, hnull, hlist, hexpected, hitems, hfar, Bool.false_eq_true,
        if_false, Option.bind_eq_bind, Option.bind_some, Option.pure_def, Bool.not_false]
  · cases h

/-- What the checker has compared: every expected parameter, of which there is one. -/
theorem compared_of_startupErrors (h : startupErrors detail = some []) :
    ∃ expected readback, Json.get detail "expected" = .obj expected ∧
      Json.get detail "readback" = .obj readback ∧
      ∀ entry ∈ expected, readbackErrors entry.1 entry.2 (Json.get readback entry.1) =
        some [] := by
  obtain ⟨expected, hexpected, h⟩ := Option.bind_eq_some_iff.mp h
  split at h
  · cases h
  · rename_i hsome
    obtain ⟨readback, hreadback, h⟩ := Option.bind_eq_some_iff.mp h
    simp only [reports_cons, reports_nil, and_true, reportIf_eq_nil, Bool.not_eq_true,
      Bool.not_eq_false'] at h
    obtain ⟨hkeys, hentries⟩ := h
    have hexpectedObj := obj_of_asObject hexpected
    have hreadbackObj := obj_of_asObject hreadback
    refine ⟨expected, readback, ?_, ?_, ?_⟩
    · rw [← get_of_getOr, hexpectedObj]
      rw [hexpectedObj]
      intro hempty
      rw [Json.obj.inj hempty] at hsome
      exact hsome rfl
    · rw [← get_of_getOr, hreadbackObj]
      rw [hreadbackObj]
      intro hempty
      rw [Json.obj.inj hempty] at hkeys
      cases expected with
      | nil => exact hsome rfl
      | cons entry expected => cases hkeys
    · intro entry hentry
      exact reports_eq_nil.mp hentries _ (List.mem_map_of_mem hentry)

/-- Of the readback the checker leaves which parameters there are. -/
theorem startupReadback_iff (h : startupErrors detail = some []) :
    startupReadback detail = some true ↔ keysExpected detail = some true := by
  obtain ⟨expected, readback, hexpected, hreadback, hentries⟩ := compared_of_startupErrors h
  have hobj : ∀ fields : Fields, asObject (.obj fields) = some fields := fun _ => rfl
  simp only [startupReadback, keysExpected, hexpected, hreadback, hobj, Option.bind_eq_bind,
    Option.bind_some, Option.pure_def]
  have hmatches : ((smootherKeys.mapM (keyMatches expected readback)).bind fun matched =>
      some (matched.all id)) = some true ↔
        ∀ key ∈ smootherKeys, (Json.lookup key expected).isSome = true := by
    refine mapM_all_iff.trans ?_
    constructor
    · intro hall key hkey
      have hone := hall key hkey
      unfold keyMatches at hone
      split at hone
      · cases hone
      · obtain ⟨observed, -, hone⟩ := Option.bind_eq_some_iff.mp hone
        obtain ⟨values, hvalues, -⟩ := Option.bind_eq_some_iff.mp hone
        obtain ⟨found, hfound, -⟩ := Option.bind_eq_some_iff.mp hvalues
        rw [hfound]
        rfl
    · intro hall key hkey
      obtain ⟨values, hvalues⟩ := Option.isSome_iff_exists.mp (hall key hkey)
      have hmem : (key, values) ∈ expected := by
        rw [lookup_eq] at hvalues
        exact mem_of_lookup hvalues
      exact keyMatches_of_readbackErrors hvalues (hentries _ hmem)
  cases hvelocity : (Json.get readback "max_velocity").truthy with
  | false => simp
  | true =>
    cases haccel : (Json.get readback "max_accel").truthy with
    | false => simp
    | true =>
      simp only [Bool.not_true, Bool.or_false, Bool.false_eq_true, if_false, Bool.and_true,
        Option.some_inj, List.all_eq_true]
      exact hmatches

/-! ### The checks by their ids -/

variable {checks : List Json} {check : Fields} {id : String}

theorem repeats_cons {value : Json} {values : List Json}
    (h : repeats (value :: values) = some false) :
    repeats values = some false ∧ ∀ other ∈ values, Json.equal value other = false := by
  obtain ⟨-, -, h⟩ := Option.bind_eq_some_iff.mp h
  obtain ⟨later, hlater, h⟩ := Option.bind_eq_some_iff.mp h
  obtain ⟨rfl, hany⟩ := Bool.or_eq_false_iff.mp (Option.some.inj h)
  refine ⟨hlater, ?_⟩
  intro other hother
  exact Bool.eq_false_iff.mpr (List.any_eq_false.mp hany other hother)

theorem checkObjects_cons (first : Json) (checks : List Json) :
    checkObjects (first :: checks) =
      (asObject first).toList ++ checkObjects checks := by
  cases hfirst : asObject first <;> simp [checkObjects, hfirst]

/-- A check is indexed under its id. -/
theorem indexed_obj (index : Entries) (hid : Json.get check "id" = .str id) :
    indexed index (.obj check) = insertAt id check index := by
  simp only [indexed, hid]

/-- A check under another id leaves an entry as it is. -/
theorem lookup_indexed_of_ne {index : Entries} {first : Json}
    (h : ∀ other ∈ (asObject first).toList, Json.get other "id" ≠ .str id) :
    (indexed index first).lookup id = index.lookup id := by
  unfold indexed
  split
  · rename_i fields
    split
    · rename_i held hheld
      apply lookup_insertAt_ne
      rintro rfl
      exact h fields (by simp [asObject]) hheld
    · rfl
  · rfl

theorem lookup_foldl_of_ne {index : Entries}
    (h : ∀ other ∈ checkObjects checks, Json.get other "id" ≠ .str id) :
    (checks.foldl indexed index).lookup id = index.lookup id := by
  induction checks generalizing index with
  | nil => rfl
  | cons first checks ih =>
    rw [checkObjects_cons, List.forall_mem_append] at h
    rw [List.foldl_cons, ih h.2, lookup_indexed_of_ne h.1]

/-- Where no id is repeated, each check is the one of its id. -/
theorem lookup_checksById
    (hdistinct : repeats ((checkObjects checks).map fun check => Json.get check "id") =
      some false)
    (hmem : check ∈ checkObjects checks) (hid : Json.get check "id" = .str id) :
    (checksById checks).lookup id = some check := by
  suffices key : ∀ index : Entries, (checks.foldl indexed index).lookup id = some check from
    key []
  induction checks with
  | nil => cases hmem
  | cons first checks ih =>
    intro index
    rw [checkObjects_cons] at hdistinct hmem
    rw [List.foldl_cons]
    cases hfirst : asObject first with
    | none =>
      rw [hfirst] at hdistinct hmem
      exact ih hdistinct hmem _
    | some fields =>
      rw [hfirst, Option.toList_some, List.singleton_append] at hdistinct hmem
      rw [List.map_cons] at hdistinct
      obtain ⟨hlater, hother⟩ := repeats_cons hdistinct
      rcases List.mem_cons.mp hmem with rfl | hmem
      · rw [lookup_foldl_of_ne, obj_of_asObject hfirst, indexed_obj _ hid, lookup_insertAt_self]
        intro other hmem hsame
        have hdiffers := hother _ (List.mem_map_of_mem hmem)
        rw [hid, hsame] at hdiffers
        simp [Json.equal] at hdiffers
      · exact ih hlater hmem _

/-! ### Accepted receipts -/

variable {maxAge : Option PyFloat} {receipt : Json}

/-- What acceptance says of the checks of a receipt. -/
structure Checked (checks : List Json) : Prop where
  distinct : repeats ((checkObjects checks).map fun check => Json.get check "id") = some false
  detail : ∀ check ∈ checkObjects checks, ∃ detail, Json.get check "detail" = .obj detail
  finite : ∀ check ∈ checkObjects checks, finiteTree 31 (.obj check) = true
  claims : validateClaims (checksById checks) = some []

theorem obj_of_mem (h : check ∈ checkObjects checks) : Json.obj check ∈ checks := by
  obtain ⟨value, hmem, hvalue⟩ := List.mem_filterMap.mp h
  rwa [← obj_of_asObject hvalue]

theorem checked_of_accepts (h : accepts stdlib maxAge receipt = true) :
    ∃ checks, checksOf receipt = checkObjects checks ∧ Checked checks := by
  have herrors : validateReceipt stdlib maxAge receipt = some [] := by
    unfold accepts at h
    cases hvalidated : validateReceipt stdlib maxAge receipt with
    | none =>
      rw [hvalidated] at h
      cases h
    | some errors =>
      rw [hvalidated] at h
      rw [List.isEmpty_iff.mp h]
  unfold validateReceipt at herrors
  split at herrors
  · rename_i fields
    split at herrors
    · rename_i hfinite
      simp only [reports_cons, reports_nil, and_true] at herrors
      obtain ⟨-, -, -, -, -, herrors⟩ := herrors
      unfold checksErrors at herrors
      split at herrors
      · cases herrors
      · rename_i checks hchecks
        simp only [reports_cons, reports_nil, and_true] at herrors
        obtain ⟨-, heach, hclaims, hsummary⟩ := herrors
        obtain ⟨hlist, -⟩ := Option.filter_eq_some_iff.mp hchecks
        have hget : Json.get fields "checks" = .list checks := list_of_asList hlist
        refine ⟨checks, ?_, ?_, ?_, ?_, hclaims⟩
        · rw [checksOf, hget]
          rfl
        · obtain ⟨summary, -, hsummary⟩ := Option.bind_eq_some_iff.mp hsummary
          obtain ⟨repeated, hrepeated, hsummary⟩ := Option.bind_eq_some_iff.mp hsummary
          simp only [reports_cons, reportIf_eq_nil, Bool.not_eq_true] at hsummary
          rw [hrepeated, hsummary.2.1]
        · intro check hmem
          have hone := reports_eq_nil.mp heach _ (List.mem_map_of_mem (obj_of_mem hmem))
          obtain ⟨status, -, hone⟩ := Option.bind_eq_some_iff.mp hone
          obtain ⟨classification, -, hone⟩ := Option.bind_eq_some_iff.mp hone
          simp only [reports_cons, reports_nil, and_true, reportIf_eq_nil] at hone
          cases hdetail : asObject (Json.get check "detail") with
          | none => exact absurd (by rw [hdetail]; rfl) hone.2.2
          | some detail => exact ⟨detail, obj_of_asObject hdetail⟩
        · intro check hmem
          have hchecksFinite := finiteTree_get hfinite "checks"
          rw [hget, finiteTree, Bool.and_eq_true, List.all_eq_true] at hchecksFinite
          exact hchecksFinite.2 _ (obj_of_mem hmem)
    · cases herrors
  · cases herrors

/-- What the checker found of a check whose claims it reads. -/
theorem errors_of_claimErrors {condition : Fields → Bool}
    {errors : Fields → Option (List Message)} {index : Entries}
    (hlookup : index.lookup id = some check) (hcondition : condition check = true)
    (hdetail : detailOf check = some detail)
    (h : claimErrors index id condition errors = some []) : errors detail = some [] := by
  simp only [claimErrors, hlookup, hcondition, if_true, hdetail, Option.bind_some] at h
  exact h

/-- The grade of a check that the checker let pass is what it left. -/
theorem grade_iff_unchecked {index : Entries} (hclaims : validateClaims index = some [])
    (hlookup : index.lookup id = some check) (hmarked : passes check = true)
    (hdetail : detailOf check = some detail)
    (hfinite : finiteTree (levels + 2) (.obj detail) = true) :
    grade stdlib id detail = some true ↔ unchecked stdlib id check detail = some true := by
  simp only [validateClaims, reports_cons, reports_nil, and_true] at hclaims
  obtain ⟨-, hstartup, -, hcaps, hclamped, hhot⟩ := hclaims
  unfold unchecked
  split
  · rename_i hid
    subst hid
    exact startupReadback_iff (errors_of_claimErrors hlookup hmarked hdetail hstartup)
  · split
    · rename_i hid
      subst hid
      have hclose : capsClose stdlib detail = some true := capsClose_of_capsErrors hfinite
        (errors_of_claimErrors hlookup hmarked hdetail hcaps)
      have hgrade : grade stdlib "vs_caps_reduced_and_symmetric" detail =
          isReduced stdlib detail := rfl
      rw [hgrade, isReduced, hclose]
      cases limitsClose stdlib detail <;> simp
    · split
      · rename_i hid
        subst hid
        exact boundsOk_iff hfinite (errors_of_claimErrors hlookup hmarked hdetail hclamped)
      · split
        · rename_i hid
          obtain ⟨rfl, hlive⟩ := hid
          exact effectObserved_iff (errors_of_claimErrors hlookup hlive hdetail hhot)
        · rfl

/-- **What an accepted receipt proves.**  The evidence of the passing checks of a receipt
    that `validate_receipt` accepts is within the bounds of the lab exactly if it is within
    those that the checker does not compare it with. -/
theorem sound_iff (h : accepts stdlib maxAge receipt = true) :
    Sound stdlib receipt ↔ RestWithin stdlib receipt := by
  obtain ⟨checks, hchecks, hchecked⟩ := checked_of_accepts h
  have hone : ∀ id check, Passing receipt id check →
      ((detailOf check).bind (grade stdlib id) = some true ↔
        (detailOf check).bind (unchecked stdlib id check) = some true) := by
    intro id check hpassing
    have hmem : check ∈ checkObjects checks := hchecks ▸ hpassing.mem
    obtain ⟨detail, hget⟩ := hchecked.detail check hmem
    have hdetail : detailOf check = some detail := by
      rw [detailOf, getOr_of_get hget Json.noConfusion]
      rfl
    have hfinite := finiteTree_get (hchecked.finite check hmem) "detail"
    rw [hget] at hfinite
    have hlookup := lookup_checksById hchecked.distinct hmem (isText_iff.mp hpassing.named)
    rw [hdetail, Option.bind_some, Option.bind_some]
    exact grade_iff_unchecked hchecked.claims hlookup hpassing.marked hdetail hfinite
  constructor
  · intro hsound id check hpassing
    exact (hone id check hpassing).mp (hsound id check hpassing)
  · intro hrest id check hpassing
    exact (hone id check hpassing).mpr (hrest id check hpassing)

/-! ### A receipt whose robot stops late -/

def decimal (value : ℚ) : Json := .float (.finite (Binary64.round value))

/-- The values of the smoother, by parameter. -/
def smootherValues : Json :=
  .obj [("max_velocity", .list [decimal 0.30, decimal 0, decimal 0.70]),
    ("min_velocity", .list [decimal (-0.30), decimal 0, decimal (-0.70)]),
    ("max_accel", .list [decimal 1.0, decimal 0, decimal 1.5]),
    ("max_decel", .list [decimal (-1.4), decimal 0, decimal (-2.0)])]

def candidateValues (named : List (String × Number)) : Json :=
  .obj (named.map fun entry => (entry.1, match entry.2 with
    | .int n => .int n
    | .float x => .float x))

/-- The evidence of a run in which an explicit stop took that long. -/
def labDetails (observed : ℚ) : List (String × String × Fields) :=
  [("isolation_enforced", "inventory", []), ("native_inventory", "inventory", []),
    ("vs_startup_readback", "live_verified",
      [("expected", smootherValues), ("readback", smootherValues)]),
    ("vs_caps_reduced_and_symmetric", "live_verified",
      [("configured_max_linear", decimal 0.30), ("configured_min_linear", decimal (-0.30)),
        ("configured_max_angular", decimal 0.70), ("configured_max_accel", decimal 1.0),
        ("configured_max_decel", decimal (-1.4))]),
    ("vs_over_cap_input_clamped", "live_verified",
      [("peak_linear", decimal 0.30), ("peak_angular", decimal 0.70), ("samples", .int 24)]),
    ("vs_proportional_small_target_no_creep", "live_verified",
      [("target", decimal 0.05), ("final_output", decimal 0.05), ("early_max", decimal 0.05),
        ("late_window_max", decimal 0.05), ("cap", decimal 0.30), ("samples", .int 80)]),
    ("vs_reversal_through_zero", "live_verified",
      [("min_output", decimal (-0.20)), ("max_output", decimal 0.20),
        ("crossed_zero", .bool true), ("samples", .int 54)]),
    ("vs_acceleration_bounded", "live_verified",
      [("configured_max_accel", decimal 1.0), ("peak_dv_per_s", decimal 1.0),
        ("peak_step", decimal 0.05), ("step_budget", decimal 0.12), ("samples", .int 40)]),
    ("vs_stop_explicit_zero_deadline", "live_verified",
      [("deadline_s", decimal 0.55), ("observed_s", decimal observed)]),
    ("vs_stop_silence_timeout_deadline", "live_verified",
      [("deadline_s", decimal 0.95), ("observed_s", decimal 0.65)]),
    ("vs_hot_reload_max_velocity_effect", "live_verified",
      [("requested", .list [decimal 0.10, decimal 0, decimal 0.30]),
        ("set_accepted", .bool true),
        ("readback", .list [decimal 0.10, decimal 0, decimal 0.30]),
        ("peak_output", decimal 0.10), ("effect_observed", .bool true), ("samples", .int 30)]),
    ("amcl_startup_readback", "restart_required",
      [("readback", candidateValues amclCandidates)]),
    ("rpp_startup_readback", "restart_required",
      [("readback", candidateValues
        (rppCandidates.map fun entry => ("FollowPath." ++ entry.1, entry.2)))])]

def digest : Json := .str (String.ofList (List.replicate 64 'a'))

def labReceipt (observed : ℚ) : Json := .obj [
  ("schema_version", .int 1), ("generator", .str "patrolbot-tuning-native-lab"),
  ("generated_at", .str "2026-01-01T00:00:00Z"), ("physical_acceptance", .bool false),
  ("live_pi_evidence", .bool false), ("synthetic_inputs_only", .bool true),
  ("images", .obj [("lab_image_id", .str "sha256:1"), ("base_image_id", .str "sha256:2")]),
  ("isolation", .obj [("patrolbot_isolated_test", .str "1"), ("ros_domain_id", .str "188"),
    ("ros_localhost_only", .str "1"), ("interfaces", .list [.str "lo"]),
    ("network_none_only_loopback", .bool true)]),
  ("inventory", .obj [
    ("libraries", .list [.obj [("path", .str "/opt/libamcl_core.so"), ("sha256", digest)]]),
    ("provenance", .obj [("nav2_upstream_archive_sha256", digest),
      ("smoother_params_sha256", digest), ("nav2_params_sha256", digest),
      ("patch_count", .int 1),
      ("patches", .list [.obj [("name", .str "0001.patch"), ("sha256", digest)]])])]),
  ("checks", .list ((labDetails observed).map fun entry => .obj [("id", .str entry.1),
    ("status", .str "pass"), ("classification", .str entry.2.1), ("detail", .obj entry.2.2)])),
  ("summary", .obj [("result", .str "pass"), ("checks", .int 13), ("passed", .int 13),
    ("failed", .int 0)])]

/-- The texts of that receipt. -/
def labStdlib : Stdlib where
  strptime := fun text => if text = "2026-01-01T00:00:00Z" then some 1767225600 else none
  now := 1767225660000000
  int := fun text => if text = "188" then some 188 else none
  float := fun _ => none

theorem accepts_prompt : accepts labStdlib none (labReceipt 0.30) = true := by decide +kernel

theorem sound_prompt : Sound labStdlib (labReceipt 0.30) := by
  apply (sound_iff accepts_prompt).mpr
  intro id check hpassing
  have hall : ∀ check ∈ checksOf (labReceipt 0.30), ∀ id ∈ requiredChecks,
      isText (Json.get check "id") id = true → passes check = true →
        (detailOf check).bind (unchecked labStdlib id check) = some true := by decide +kernel
  exact hall check hpassing.mem id hpassing.required hpassing.named hpassing.marked

/-- A stop after thirty seconds, where the deadline is 0.55 seconds, is accepted. -/
theorem not_sound_late :
    accepts labStdlib none (labReceipt 30) = true ∧ ¬ Sound labStdlib (labReceipt 30) := by
  refine ⟨by decide +kernel, ?_⟩
  intro hsound
  have hlate : ∃ check ∈ checksOf (labReceipt 30),
      isText (Json.get check "id") "vs_stop_explicit_zero_deadline" = true ∧
        passes check = true ∧
        (detailOf check).bind (grade labStdlib "vs_stop_explicit_zero_deadline") ≠
          some true := by decide +kernel
  obtain ⟨check, hmem, hnamed, hmarked, hgrade⟩ := hlate
  exact hgrade (hsound _ check ⟨by decide, hmem, hnamed, hmarked⟩)

end PatrolBot.Tuning.Receipt
