import PatrolBot.TuningAuthorization

/-!
# What a tuning signature binds

A mutation the server signed is accepted for its robot from five seconds before
the clock that issued it until half a minute after, and gives back its request
and its actor.  Two accepted mutations under one signature are one mutation.
-/

namespace PatrolBot.Tuning

/-! ### Fields of a wrapper -/

theorem get_insertAt_self (key : String) (value : Json) (fields : List (String × Json)) :
    Json.get (insertAt key value fields) key = value := by
  rw [Json.get, lookup_eq, lookup_insertAt_self]
  rfl

theorem get_insertAt_ne {key other : String} (h : other ≠ key) (value : Json)
    (fields : List (String × Json)) :
    Json.get (insertAt key value fields) other = Json.get fields other := by
  rw [Json.get, Json.get, lookup_eq, lookup_eq, lookup_insertAt_ne h]

theorem get_unsigned {key : String} (h : key ≠ "signature") (claims : List (String × Json)) :
    Json.get (unsigned claims) key = Json.get claims key := by
  rw [Json.get, Json.get]
  congr 1
  induction claims with
  | nil => rfl
  | cons claim claims ih =>
    obtain ⟨name, value⟩ := claim
    simp only [unsigned] at ih ⊢
    rw [List.filter_cons]
    split
    · simp only [Json.lookup, ih]
    · rename_i hname
      have hne : name ≠ key := by
        rintro rfl
        exact hname (by simpa using h)
      simp only [Json.lookup, if_neg hne, ih]

/-- `data[key]` of a dictionary. -/
def part (value : Json) (key : String) : Json := Json.get ((entries value).getD []) key

/-- What the signature of a wrapper is over. -/
def signedBody (wrapper : Json) : Json :=
  withAuthorization ((entries wrapper).getD [])
    (unsigned ((entries (part wrapper "authorization")).getD []))

theorem eq_of_entries {value : Json} {fields : List (String × Json)}
    (h : entries value = some fields) : value = .obj fields := by
  cases value <;> simp_all [entries]

theorem eq_of_strictInt {value : Json} {n : Int} (h : strictInt value = some n) :
    value = .int n := by
  cases value <;> simp_all [strictInt]

theorem eq_of_isText {value : Json} {expected : String} (h : isText value expected = true) :
    value = .str expected := by
  cases value <;> simp_all [isText, asText]

theorem eq_of_asText {value : Json} {expected : String} (h : asText value = some expected) :
    value = .str expected := by
  cases value <;> simp_all [asText]

/-! ### What is accepted -/

section

variable {floats : FloatTexts} {hmac : List UInt8 → List Char → String}
variable {wrapper body authorization actor request : Json} {key : List UInt8} {robotId : String}
variable {fields claims : List (String × Json)} {now clock : PyFloat} {checked : Claims}

theorem subject_eq_ok :
    subject wrapper robotId = .ok fields ↔
      (1 ≤ robotId.length ∧ robotId.length ≤ 128) ∧ entries wrapper = some fields ∧
      ((Json.lookup "request" fields).isSome ∧ (Json.lookup "actor" fields).isSome) ∧
      subjectParties (Json.get fields "actor") (Json.get fields "request") = .ok () := by
  unfold subject
  rw [bind_eq_ok]
  cases hentries : entries wrapper with
  | none => simp
  | some found =>
    simp only [bind_eq_ok, demand_eq_ok, pure, Except.pure, Except.ok.injEq, Option.some.injEq]
    constructor
    · rintro ⟨_, hrobot, _, hboth, _, hparties, rfl⟩
      exact ⟨hrobot, rfl, hboth, hparties⟩
    · rintro ⟨hrobot, rfl, hboth, hparties⟩
      exact ⟨(), hrobot, (), hboth, (), hparties, rfl⟩

theorem subjectParties_eq_ok :
    subjectParties actor request = .ok () ↔
      ∃ actorFields requestFields operation, actor = .obj actorFields ∧
        request = .obj requestFields ∧
        isText (Json.get actorFields "role") "administrator" = true ∧
        Json.get requestFields "operation" = .str operation ∧
        mutationOperations.contains operation = true := by
  constructor
  · intro h
    unfold subjectParties at h
    cases hactor : entries actor with
    | none => simp [hactor] at h
    | some actorFields =>
      cases hrequest : entries request with
      | none => simp [hactor, hrequest] at h
      | some requestFields =>
        simp only [hactor, hrequest] at h
        split at h
        · rename_i hrole
          obtain ⟨mutation, hmutation, hdemand⟩ := bind_eq_ok.mp h
          have hmutation' : mutation = true := demand_eq_ok.mp hdemand
          subst hmutation'
          cases hoperation : Json.get requestFields "operation" with
          | str operation =>
            simp only [hoperation, isMutation, Except.ok.injEq] at hmutation
            exact ⟨actorFields, requestFields, operation, eq_of_entries hactor,
              eq_of_entries hrequest, hrole, hoperation, hmutation⟩
          | _ => simp [hoperation, isMutation] at hmutation
        · exact absurd h (by simp)
  · rintro ⟨actorFields, requestFields, operation, rfl, rfl, hrole, hoperation, hmutation⟩
    simp only [subjectParties, entries, hrole, if_true, hoperation, isMutation, hmutation]
    rfl

theorem checkedClaims_eq_ok :
    checkedClaims robotId authorization = .ok checked ↔
      authorization = .obj checked.fields ∧ Json.hasExactly checked.fields claimKeys = true ∧
      Json.get checked.fields "issued_at_ms" = .int checked.issued ∧
      Json.get checked.fields "expires_at_ms" = .int checked.expires ∧
      Json.get checked.fields "version" = .int 1 ∧
      Json.get checked.fields "robot_id" = .str robotId ∧
      0 ≤ checked.issued ∧ checked.issued < checked.expires ∧ checked.expires ≤ jsSafeInt ∧
      checked.expires - checked.issued ≤ maxLifetimeMs := by
  constructor
  · intro h
    unfold checkedClaims at h
    cases hentries : entries authorization with
    | none => simp [hentries] at h
    | some claims =>
      simp only [hentries] at h
      obtain ⟨_, hkeys, h⟩ := bind_eq_ok.mp h
      cases hissued : strictInt (Json.get claims "issued_at_ms") with
      | none => simp [hissued] at h
      | some issued =>
        cases hexpires : strictInt (Json.get claims "expires_at_ms") with
        | none => simp [hissued, hexpires] at h
        | some expires =>
          simp only [hissued, hexpires] at h
          obtain ⟨_, hbinding, h⟩ := bind_eq_ok.mp h
          have hbinding := demand_eq_ok.mp hbinding
          obtain rfl := Except.ok.inj h
          exact ⟨eq_of_entries hentries, demand_eq_ok.mp hkeys, eq_of_strictInt hissued,
            eq_of_strictInt hexpires, eq_of_strictInt hbinding.1, eq_of_isText hbinding.2.1,
            hbinding.2.2.1, hbinding.2.2.2.1, hbinding.2.2.2.2.1, hbinding.2.2.2.2.2.2⟩
  · rintro ⟨rfl, hkeys, hissued, hexpires, hversion, hrobot, hpos, hlt, hsafe, hlife⟩
    have hbinding : demand (strictInt (Json.get checked.fields "version") = some 1 ∧
        isText (Json.get checked.fields "robot_id") robotId = true ∧
        0 ≤ checked.issued ∧ checked.issued < checked.expires ∧ checked.expires ≤ jsSafeInt ∧
        0 < checked.expires - checked.issued ∧
        checked.expires - checked.issued ≤ maxLifetimeMs)
        "invalid tuning authorization binding" = .ok () := by
      rw [demand_eq_ok]
      refine ⟨by simp [hversion, strictInt], by simp [hrobot, isText, asText], hpos, hlt, hsafe,
        by omega, hlife⟩
    have hdemand : demand (Json.hasExactly checked.fields claimKeys = true)
        "invalid tuning authorization claims" = .ok () := demand_eq_ok.mpr hkeys
    simp only [checkedClaims, entries, hdemand, hissued, hexpires, strictInt, bind, Except.bind]
    simp only [strictInt] at hbinding
    rw [hbinding]
    rfl

theorem digest_eq_ok {signature : String} :
    digest floats hmac key body = .ok signature ↔
      (32 ≤ key.length ∧ key.length ≤ 4096) ∧
      ∃ raw, canonical floats body = .ok raw ∧ hmac key (domain ++ raw) = signature := by
  unfold digest checkKey
  simp only [bind_eq_ok, demand_eq_ok, pure, Except.pure, Except.ok.injEq]
  constructor
  · rintro ⟨_, hkey, raw, hraw, h⟩
    exact ⟨hkey, raw, hraw, h⟩
  · rintro ⟨hkey, raw, hraw, h⟩
    exact ⟨(), hkey, raw, hraw, h⟩

theorem canonical_eq_ok {raw : List Char} :
    canonical floats body = .ok raw ↔
      floats.dumpsSorted body = some raw ∧ raw.length ≤ maxBytes := by
  unfold canonical
  cases floats.dumpsSorted body with
  | none => simp
  | some found =>
    dsimp only
    split
    · rename_i hlong
      constructor
      · intro h
        exact absurd h (by simp)
      · rintro ⟨hfound, hshort⟩
        obtain rfl := Option.some.inj hfound
        omega
    · rename_i hshort
      simp only [Except.ok.injEq, Option.some.injEq]
      constructor
      · rintro rfl
        exact ⟨rfl, by omega⟩
      · exact fun h => h.1

theorem checkSignature_eq_ok :
    checkSignature floats hmac key fields claims = .ok () ↔
      ∃ signature, Json.get claims "signature" = .str signature ∧ isDigest signature = true ∧
        digest floats hmac key (withAuthorization fields (unsigned claims)) = .ok signature := by
  constructor
  · intro h
    unfold checkSignature at h
    cases hsignature : asText (Json.get claims "signature") with
    | none => simp [hsignature] at h
    | some signature =>
      simp only [hsignature] at h
      obtain ⟨_, hshape, h⟩ := bind_eq_ok.mp h
      obtain ⟨expected, hdigest, h⟩ := bind_eq_ok.mp h
      obtain rfl := demand_eq_ok.mp h
      exact ⟨expected, eq_of_asText hsignature, demand_eq_ok.mp hshape, hdigest⟩
  · rintro ⟨signature, hsignature, hshape, hdigest⟩
    simp only [checkSignature, hsignature, asText, hshape, hdigest]
    simp [demand, bind, Except.bind]

theorem reread_eq_ok {value : Json} :
    reread floats body = .ok value ↔
      ∃ raw, canonical floats body = .ok raw ∧ value = body.sortKeys := by
  unfold reread
  rw [bind_eq_ok]
  constructor
  · rintro ⟨raw, hraw, h⟩
    rw [FloatTexts.loads_dumpsSorted (canonical_eq_ok.mp hraw).1] at h
    exact ⟨raw, hraw, (Except.ok.inj h).symm⟩
  · rintro ⟨raw, hraw, rfl⟩
    refine ⟨raw, hraw, ?_⟩
    rw [FloatTexts.loads_dumpsSorted (canonical_eq_ok.mp hraw).1]
    rfl

/-- A wrapper that is accepted: its claims hold, and its signature is the
    digest of what they sign. -/
theorem verify_ok_cases (h : verify floats hmac wrapper key robotId now = .ok body) :
    ∃ fields checked signature raw, wrapper = .obj fields ∧
      checkedClaims robotId (Json.get fields "authorization") = .ok checked ∧
      Json.get checked.fields "signature" = .str signature ∧
      floats.dumpsSorted (withAuthorization fields (unsigned checked.fields)) = some raw ∧
      hmac key (domain ++ raw) = signature := by
  unfold verify at h
  obtain ⟨fields, hsubject, h⟩ := bind_eq_ok.mp h
  obtain ⟨_, _, h⟩ := bind_eq_ok.mp h
  obtain ⟨checked, hclaims, h⟩ := bind_eq_ok.mp h
  obtain ⟨_, _, h⟩ := bind_eq_ok.mp h
  obtain ⟨_, _, h⟩ := bind_eq_ok.mp h
  obtain ⟨_, hsignature, _⟩ := bind_eq_ok.mp h
  obtain ⟨signature, hsigned, _, hdigest⟩ := checkSignature_eq_ok.mp hsignature
  obtain ⟨_, raw, hraw, hmac⟩ := digest_eq_ok.mp hdigest
  exact ⟨fields, checked, signature, raw, eq_of_entries (subject_eq_ok.mp hsubject).2.1, hclaims,
    hsigned, (canonical_eq_ok.mp hraw).1, hmac⟩

end

/-! ### One signature, one mutation -/

section

variable {left right : List (String × Json)} {leftClaims rightClaims : List (String × Json)}

theorem sortFields_of_alike (h : Json.Alike (.obj left) (.obj right)) :
    Json.sortFields left = Json.sortFields right := by
  simpa only [Json.Alike, Json.sortKeys_obj, Json.obj.injEq] using h

theorem alike_get (h : Json.Alike (.obj left) (.obj right)) (key : String) :
    Json.Alike (Json.get left key) (Json.get right key) := by
  unfold Json.Alike
  rw [← Json.get_sortFields, ← Json.get_sortFields, sortFields_of_alike h]

/-- Equal signed bodies agree on the wrapper's fields. -/
theorem alike_get_withAuthorization {key : String} (hkey : key ≠ "authorization")
    (h : Json.Alike (withAuthorization left leftClaims) (withAuthorization right rightClaims)) :
    Json.Alike (Json.get left key) (Json.get right key) := by
  have hget := alike_get h key
  rwa [get_insertAt_ne hkey, get_insertAt_ne hkey] at hget

/-- Equal signed bodies agree on every claim but the signature. -/
theorem alike_get_claims (key : String) (hkey : key ≠ "signature")
    (h : Json.Alike (withAuthorization left (unsigned leftClaims))
      (withAuthorization right (unsigned rightClaims))) :
    Json.Alike (Json.get leftClaims key) (Json.get rightClaims key) := by
  have hclaims := alike_get h "authorization"
  rw [get_insertAt_self, get_insertAt_self] at hclaims
  have hget := alike_get hclaims key
  rwa [get_unsigned hkey, get_unsigned hkey] at hget

end

theorem eq_of_alike_int {left right : Int} (h : Json.Alike (.int left) (.int right)) :
    left = right := by
  have hvalue : Json.int left = Json.int right := h
  exact Json.int.inj hvalue

theorem eq_of_alike_str {left right : String} (h : Json.Alike (.str left) (.str right)) :
    left = right := by
  have hvalue : Json.str left = Json.str right := h
  exact Json.str.inj hvalue

/-- The claims of an accepted wrapper, and the text its signature is over. -/
structure Accepted (floats : FloatTexts) (hmac : List UInt8 → List Char → String)
    (key : List UInt8) (robotId : String) (wrapper : Json) where
  checked : Claims
  raw : List Char
  claims_ok : checkedClaims robotId (part wrapper "authorization") = .ok checked
  signature_eq : part (part wrapper "authorization") "signature" = .str (hmac key (domain ++ raw))
  dumps_eq : floats.dumpsSorted (signedBody wrapper) = some raw
  body_eq : signedBody wrapper =
    withAuthorization ((entries wrapper).getD []) (unsigned checked.fields)

section

variable {floats : FloatTexts} {hmac : List UInt8 → List Char → String}
variable {wrapper left right body : Json} {key : List UInt8}
variable {robotId leftRobot rightRobot : String} {now : PyFloat}

theorem accepted_of_verify (h : verify floats hmac wrapper key robotId now = .ok body) :
    Nonempty (Accepted floats hmac key robotId wrapper) := by
  obtain ⟨fields, checked, signature, raw, rfl, hclaims, hsignature, hraw, rfl⟩ := verify_ok_cases h
  have hauthorization := (checkedClaims_eq_ok.mp hclaims).1
  have hentries : (entries (part (.obj fields) "authorization")).getD [] = checked.fields := by
    change (entries (Json.get fields "authorization")).getD [] = checked.fields
    rw [hauthorization]
    rfl
  have hbody : signedBody (.obj fields) = withAuthorization fields (unsigned checked.fields) := by
    rw [signedBody, hentries]
    rfl
  have hsigned : part (part (.obj fields) "authorization") "signature" =
      .str (hmac key (domain ++ raw)) := by
    rw [part, hentries]
    exact hsignature
  exact ⟨⟨checked, raw, hclaims, hsigned, by rw [hbody]; exact hraw, hbody⟩⟩

/-- Two accepted wrappers whose signatures are over one text agree on all that
    was signed. -/
theorem Accepted.agree (hleft : Accepted floats hmac key leftRobot left)
    (hright : Accepted floats hmac key rightRobot right) (hraw : hleft.raw = hright.raw) :
    Json.Alike (part left "request") (part right "request") ∧
      Json.Alike (part left "actor") (part right "actor") ∧ leftRobot = rightRobot ∧
      hleft.checked.issued = hright.checked.issued ∧
      hleft.checked.expires = hright.checked.expires := by
  have hbodies : Json.Alike (signedBody left) (signedBody right) :=
    FloatTexts.alike_of_dumpsSorted (hraw ▸ hleft.dumps_eq) hright.dumps_eq
  rw [hleft.body_eq, hright.body_eq] at hbodies
  obtain ⟨-, -, hlissued, hlexpires, -, hlrobot, -⟩ := checkedClaims_eq_ok.mp hleft.claims_ok
  obtain ⟨-, -, hrissued, hrexpires, -, hrrobot, -⟩ := checkedClaims_eq_ok.mp hright.claims_ok
  have hrobot := alike_get_claims "robot_id" (by decide) hbodies
  have hissued := alike_get_claims "issued_at_ms" (by decide) hbodies
  have hexpires := alike_get_claims "expires_at_ms" (by decide) hbodies
  rw [hlrobot, hrrobot] at hrobot
  rw [hlissued, hrissued] at hissued
  rw [hlexpires, hrexpires] at hexpires
  exact ⟨alike_get_withAuthorization (by decide) hbodies,
    alike_get_withAuthorization (by decide) hbodies, eq_of_alike_str hrobot,
    eq_of_alike_int hissued, eq_of_alike_int hexpires⟩

end

/-! ### The signed wrapper -/

/-- The claims `sign` makes, in the order it sends them. -/
def sentClaims (robotId : String) (issued : Int) : List (String × Json) :=
  [("expires_at_ms", .int (issued + maxLifetimeMs)), ("issued_at_ms", .int issued),
    ("robot_id", .str robotId), ("version", .int 1)]

/-- The fields of a wrapper on its way to the robot. -/
def sentFields (actor request : Json) (claims : List (String × Json)) : List (String × Json) :=
  [("actor", actor), ("authorization", .obj claims), ("request", request)]

/-- The order of the keys of a wrapper and of its claims. -/
theorem key_order :
    "actor" ≤ "authorization" ∧ "actor" ≤ "request" ∧ "authorization" ≤ "request" ∧
      ¬"authorization" ≤ "actor" ∧ ¬"request" ≤ "actor" ∧ ¬"request" ≤ "authorization" ∧
      ¬"version" ≤ "expires_at_ms" ∧ ¬"version" ≤ "issued_at_ms" ∧ ¬"version" ≤ "robot_id" ∧
      ¬"robot_id" ≤ "expires_at_ms" ∧ ¬"robot_id" ≤ "issued_at_ms" ∧
      ¬"issued_at_ms" ≤ "expires_at_ms" := by decide

theorem sortFields_issuedClaims (robotId : String) (issued : Int) :
    Json.sortFields (issuedClaims robotId issued) = sentClaims robotId issued := by
  simp only [Json.sortFields, issuedClaims, Json.toFields, JsonText.sortedFields,
    List.insertionSort_cons, List.insertionSort_nil, List.orderedInsert_nil,
    List.orderedInsert_cons, JsonText.KeyLe, key_order, if_false, Json.ofFields]
  rfl

/-- The two orders the fields of a wrapper can stand in. -/
def Paired (fields : List (String × Json)) (actor request : Json) : Prop :=
  fields = [("actor", actor), ("request", request)] ∨
    fields = [("request", request), ("actor", actor)]

/-- A dictionary with two keys has two fields. -/
theorem paired_of_hasExactly {fields : List (String × Json)} (hnodup : (fields.map Prod.fst).Nodup)
    (hkeys : Json.hasExactly fields ["actor", "request"] = true) :
    Paired fields (Json.get fields "actor") (Json.get fields "request") := by
  simp only [Json.hasExactly, Bool.and_eq_true, List.all_eq_true, List.contains_eq_mem,
    List.mem_cons, List.not_mem_nil, or_false, decide_eq_true_eq] at hkeys
  obtain ⟨hall, hboth⟩ := hkeys
  have hactor := hboth "actor" (Or.inl rfl)
  have hrequest := hboth "request" (Or.inr rfl)
  match fields with
  | [] => simp [Json.lookup] at hactor
  | [(name, value)] =>
    rcases hall (name, value) List.mem_cons_self with hname | hname
    · dsimp only at hname
      subst hname
      simp [Json.lookup] at hrequest
    · dsimp only at hname
      subst hname
      simp [Json.lookup] at hactor
  | [(first, one), (second, two)] =>
    have hne : first ≠ second := by
      rintro rfl
      simp at hnodup
    rcases hall (first, one) List.mem_cons_self with hfirst | hfirst <;>
      rcases hall (second, two) (List.mem_cons_of_mem _ List.mem_cons_self) with
        hsecond | hsecond <;>
      dsimp only at hfirst hsecond <;> subst hfirst <;> subst hsecond
    · exact absurd rfl hne
    · exact Or.inl (by simp [Json.get, Json.lookup])
    · exact Or.inr (by simp [Json.get, Json.lookup])
    · exact absurd rfl hne
  | (first, one) :: (second, two) :: (third, three) :: rest =>
    have hfirst := hall (first, one) List.mem_cons_self
    have hsecond := hall (second, two) (List.mem_cons_of_mem _ List.mem_cons_self)
    have hthird := hall (third, three)
      (List.mem_cons_of_mem _ (List.mem_cons_of_mem _ List.mem_cons_self))
    simp only [List.map_cons, List.nodup_cons, List.mem_cons, not_or] at hnodup
    grind

theorem sortKeys_withAuthorization {fields : List (String × Json)} {actor request : Json}
    (h : Paired fields actor request) (claims : List (String × Json)) :
    (withAuthorization fields claims).sortKeys =
      .obj (sentFields actor.sortKeys request.sortKeys (Json.sortFields claims)) := by
  -- Whichever of the two parties stands first, the claims come between them.
  rcases h with rfl | rfl
  all_goals
    simp only [withAuthorization, insertAt, Json.sortKeys_obj, Json.sortFields, Json.toFields,
      JsonText.sortedFields, List.insertionSort_cons, List.insertionSort_nil,
      List.orderedInsert_nil, List.orderedInsert_cons, JsonText.KeyLe, key_order, if_false, if_true,
      String.reduceEq]
    rfl

/-- What comes back of the request and the actor of a signed wrapper. -/
theorem sortKeys_parties (actor request : Json) :
    (Json.obj [("request", request), ("actor", actor)]).sortKeys =
      .obj [("actor", actor.sortKeys), ("request", request.sortKeys)] := by
  simp only [Json.sortKeys_obj, Json.sortFields, Json.toFields, JsonText.sortedFields,
    List.insertionSort_cons, List.insertionSort_nil, List.orderedInsert_nil,
    List.orderedInsert_cons, JsonText.KeyLe, key_order]
  rfl

/-- The request and the actor alone take no more room than with their claims. -/
theorem canonical_parties {floats : FloatTexts} {actor request : Json}
    {claims : List (String × Json)} {raw : List Char}
    (h : floats.dumpsSorted (.obj (sentFields actor.sortKeys request.sortKeys claims)) = some raw)
    (hsorted : Json.sortKeys (.obj (sentFields actor.sortKeys request.sortKeys claims)) =
      .obj (sentFields actor.sortKeys request.sortKeys claims)) :
    ∃ short, floats.dumpsSorted (.obj [("request", request.sortKeys), ("actor", actor.sortKeys)]) =
      some short ∧ short.length ≤ raw.length := by
  have hparties : JsonText.sorted (Json.toValue (.obj [("request", request.sortKeys),
      ("actor", actor.sortKeys)])) = .obj [("actor", actor.sortKeys.toValue),
        ("request", request.sortKeys.toValue)] := by
    have hsort := congrArg Json.toValue (sortKeys_parties actor.sortKeys request.sortKeys)
    simpa only [Json.toValue_sortKeys, JsonText.sorted_sorted, Json.toValue,
      Json.toFields] using hsort
  have hsent : JsonText.sorted (Json.toValue (.obj (sentFields actor.sortKeys request.sortKeys
      claims))) = Json.toValue (.obj (sentFields actor.sortKeys request.sortKeys claims)) := by
    rw [← Json.toValue_sortKeys, hsorted]
  unfold FloatTexts.dumpsSorted at h ⊢
  split at h
  · rename_i hwritable
    obtain rfl := Option.some.inj h
    simp only [sentFields, Json.toValue, Json.toFields, JsonText.writable,
      JsonText.writableFields, Bool.and_eq_true] at hwritable
    rw [if_pos (by simp only [Json.toValue, Json.toFields, JsonText.writable,
      JsonText.writableFields, hwritable.1, hwritable.2.2.1, Bool.and_self])]
    refine ⟨_, rfl, ?_⟩
    simp only [JsonText.canonical, hparties, hsent]
    simp only [sentFields, Json.toValue, Json.toFields, JsonText.text, JsonText.moreFields,
      List.length_cons, List.length_append]
    omega
  · exact absurd h (by simp)

/-! ### Signing and verifying -/

/-- The keys of a dictionary are distinct. -/
def Dict (value : Json) : Prop := (((entries value).getD []).map Prod.fst).Nodup

theorem subjectParties_sortKeys {actor request : Json}
    (h : subjectParties actor request = .ok ()) :
    subjectParties actor.sortKeys request.sortKeys = .ok () := by
  obtain ⟨actorFields, requestFields, operation, rfl, rfl, hrole, hoperation, hmutation⟩ :=
    subjectParties_eq_ok.mp h
  rw [subjectParties_eq_ok]
  refine ⟨_, _, operation, Json.sortKeys_obj actorFields, Json.sortKeys_obj requestFields, ?_, ?_,
    hmutation⟩
  · rw [Json.get_sortFields, eq_of_isText hrole]
    rfl
  · rw [Json.get_sortFields, hoperation]
    rfl

section

variable {floats : FloatTexts} {hmac : List UInt8 → List Char → String}
variable {wrapper signed body : Json} {key : List UInt8} {robotId : String}
variable {now clock : PyFloat} {issued : Int}

/-- What `sign` accepts, and what it makes of it. -/
theorem sign_ok_cases (hdict : Dict wrapper)
    (h : sign floats hmac wrapper key robotId clock = .ok signed) :
    ∃ actor request issued raw signature, part wrapper "actor" = actor ∧
      part wrapper "request" = request ∧ clockMs clock = .ok issued ∧
      (1 ≤ robotId.length ∧ robotId.length ≤ 128) ∧
      subjectParties actor request = .ok () ∧ (32 ≤ key.length ∧ key.length ≤ 4096) ∧
      canonical floats (.obj (sentFields actor.sortKeys request.sortKeys
        (sentClaims robotId issued))) = .ok raw ∧
      hmac key (domain ++ raw) = signature ∧
      signed = .obj (sentFields actor.sortKeys request.sortKeys
        (sentClaims robotId issued ++ [("signature", .str signature)])) := by
  unfold sign at h
  obtain ⟨fields, hsubject, h⟩ := bind_eq_ok.mp h
  obtain ⟨_, hkeys, h⟩ := bind_eq_ok.mp h
  obtain ⟨issued, hissued, h⟩ := bind_eq_ok.mp h
  obtain ⟨signature, hdigest, h⟩ := bind_eq_ok.mp h
  obtain ⟨body, hbody, h⟩ := bind_eq_ok.mp h
  obtain ⟨hrobot, hentries, -, hparties⟩ := subject_eq_ok.mp hsubject
  obtain rfl := eq_of_entries hentries
  obtain ⟨hkey, raw, hraw, hmac⟩ := digest_eq_ok.mp hdigest
  have hpaired : Paired fields (Json.get fields "actor") (Json.get fields "request") :=
    paired_of_hasExactly hdict (demand_eq_ok.mp hkeys)
  obtain ⟨_, -, rfl⟩ := reread_eq_ok.mp hbody
  have hsent := sortKeys_withAuthorization hpaired (issuedClaims robotId issued)
  rw [sortFields_issuedClaims] at hsent
  refine ⟨_, _, issued, raw, signature, rfl, rfl, hissued, hrobot, hparties, hkey, ?_, hmac, ?_⟩
  · rw [canonical_eq_ok] at hraw ⊢
    have hdumps := FloatTexts.dumpsSorted_sortKeys floats
      (withAuthorization fields (issuedClaims robotId issued))
    rw [hsent] at hdumps
    exact ⟨hdumps.trans hraw.1, hraw.2⟩
  · obtain rfl := Except.ok.inj h
    rw [hsent]
    simp [attachSignature, entries, sentFields, sentClaims, Json.get, Json.lookup,
      withAuthorization, insertAt, part]

/-- The claims of a signed wrapper stand, whatever the clock says. -/
theorem checkedClaims_sent (robotId signature : String) (hissued : 0 ≤ issued)
    (hsafe : issued + maxLifetimeMs ≤ jsSafeInt) :
    checkedClaims robotId (.obj (sentClaims robotId issued ++ [("signature", .str signature)])) =
      .ok ⟨sentClaims robotId issued ++ [("signature", .str signature)], issued,
        issued + maxLifetimeMs⟩ := by
  have hlifetime : maxLifetimeMs = 30000 := rfl
  rw [checkedClaims_eq_ok]
  refine ⟨rfl, ?_, rfl, rfl, rfl, rfl, hissued, ?_, hsafe, ?_⟩
  · simp [Json.hasExactly, sentClaims, claimKeys, Json.lookup]
  · dsimp only
    omega
  · dsimp only
    omega

theorem clockMs_nonneg (h : clockMs clock = .ok issued) : 0 ≤ issued := by
  cases clock with
  | finite seconds =>
    simp only [clockMs] at h
    split at h
    · rename_i hbounds
      obtain rfl := Except.ok.inj h
      have hpos : (0 : ℚ) ≤ seconds * 1000 := mul_nonneg hbounds.1 (by decide +kernel)
      exact Rat.le_floor_iff.mpr (by simpa using hpos)
    · exact absurd h (by simp)
  | inf negative => exact absurd h (by simp [clockMs])
  | nan => exact absurd h (by simp [clockMs])

/-- The clock that cannot be read is refused as such. -/
theorem clockMs_cases (now : PyFloat) :
    (∃ current, clockMs now = .ok current) ∨
      clockMs now = .error (.refused "invalid authorization clock") := by
  cases now with
  | finite seconds =>
    simp only [clockMs]
    split
    · exact Or.inl ⟨_, rfl⟩
    · exact Or.inr rfl
  | inf negative => exact Or.inr rfl
  | nan => exact Or.inr rfl

/-- All but the clock of `verify` on a wrapper that passes the other checks. -/
theorem verify_of_checks (fields : List (String × Json)) (checked : Claims)
    (hsubject : subject wrapper robotId = .ok fields)
    (hkeys : Json.hasExactly fields ["actor", "request", "authorization"] = true)
    (hclaims : checkedClaims robotId (Json.get fields "authorization") = .ok checked)
    (hsignature : checkSignature floats hmac key fields checked.fields = .ok ())
    (hbody : reread floats (.obj [("request", Json.get fields "request"),
      ("actor", Json.get fields "actor")]) = .ok body) :
    verify floats hmac wrapper key robotId now = (do
      let current ← clockMs now
      demand (¬(checked.issued > current + clockSkewMs ∨ checked.expires ≤ current))
        "expired or future tuning authorization"
      pure body) := by
  have hdemand : demand (Json.hasExactly fields ["actor", "request", "authorization"] = true)
      "signed tuning authorization required" = .ok () := demand_eq_ok.mpr hkeys
  simp only [verify, hsubject, hdemand, hclaims, hsignature, hbody, bind, Except.bind, pure,
    Except.pure]

/-- What was signed is accepted in its window, and only there. -/
theorem verify_sign (hshape : ∀ message, isDigest (hmac key message) = true)
    (hdict : Dict wrapper) (hclock : clockMs clock = .ok issued)
    (hsafe : issued + maxLifetimeMs ≤ jsSafeInt)
    (h : sign floats hmac wrapper key robotId clock = .ok signed) :
    verify floats hmac signed key robotId now = (do
      let current ← clockMs now
      demand (¬(issued > current + clockSkewMs ∨ issued + maxLifetimeMs ≤ current))
        "expired or future tuning authorization"
      pure (.obj [("actor", (part wrapper "actor").sortKeys),
        ("request", (part wrapper "request").sortKeys)])) := by
  obtain ⟨actor, request, at', raw, signature, rfl, rfl, hat, hrobot, hparties, hkey, hraw, hmac,
    rfl⟩ := sign_ok_cases hdict h
  obtain rfl : at' = issued := Except.ok.inj (hat.symm.trans hclock)
  have hparties := subjectParties_sortKeys hparties
  have hsorted : Json.sortKeys (.obj (sentFields (part wrapper "actor").sortKeys
      (part wrapper "request").sortKeys (sentClaims robotId at'))) =
      .obj (sentFields (part wrapper "actor").sortKeys (part wrapper "request").sortKeys
        (sentClaims robotId at')) := by
    have hsent := @sortKeys_withAuthorization _ (part wrapper "actor") (part wrapper "request")
      (Or.inl rfl) (issuedClaims robotId at')
    rw [sortFields_issuedClaims] at hsent
    rw [← hsent, Json.sortKeys_sortKeys]
  obtain ⟨short, hshort, hlength⟩ := canonical_parties (canonical_eq_ok.mp hraw).1 hsorted
  refine verify_of_checks (sentFields (part wrapper "actor").sortKeys
      (part wrapper "request").sortKeys
      (sentClaims robotId at' ++ [("signature", .str signature)]))
    ⟨sentClaims robotId at' ++ [("signature", .str signature)], at', at' + maxLifetimeMs⟩
    ?_ ?_ ?_ ?_ ?_
  · rw [subject_eq_ok]
    exact ⟨hrobot, rfl, ⟨rfl, rfl⟩, hparties⟩
  · simp [Json.hasExactly, sentFields, Json.lookup]
  · exact checkedClaims_sent robotId signature (clockMs_nonneg hclock) hsafe
  · rw [checkSignature_eq_ok]
    refine ⟨signature, rfl, hmac ▸ hshape _, ?_⟩
    rw [digest_eq_ok]
    refine ⟨hkey, raw, ?_, hmac⟩
    have hunsigned : unsigned (sentClaims robotId at' ++ [("signature", Json.str signature)]) =
        sentClaims robotId at' := by
      simp [unsigned, sentClaims]
    rw [hunsigned]
    exact hraw
  · rw [reread_eq_ok]
    refine ⟨short, ?_, ?_⟩
    · rw [canonical_eq_ok]
      exact ⟨hshort, le_trans hlength (canonical_eq_ok.mp hraw).2⟩
    · have hback := sortKeys_parties (part wrapper "actor").sortKeys
        (part wrapper "request").sortKeys
      rw [Json.sortKeys_sortKeys, Json.sortKeys_sortKeys] at hback
      exact hback.symm

end

/-- The double nearest to a tenth. -/
def tenth : ℚ := 3602879701896397 / 36028797018963968

def wireFloats : FloatTexts where
  held q := decide (q = tenth)
  repr _ := ['0', '.', '1']
  parse text := if text = ['0', '.', '1'] then some tenth else none
  token_of_mem q _ := List.all_eq_true.mp (by decide)
  marked q _ := by decide
  parse_repr q hq := by
    rw [if_pos rfl, of_decide_eq_true hq]
  length_repr q _ := by decide

def wireKey : List UInt8 :=
  "unit-test-secret-not-for-deployment-123456".toList.map (·.toNat.toUInt8)

def wireWrapper : Json :=
  .obj [
    ("actor", .obj [("id", .int 1), ("username", .str "admin"), ("role", .str "administrator")]),
    ("request", .obj [("operation", .str "save"), ("request_id", .str "fixture"),
      ("changes", .list [.obj [("id", .str "amcl.alpha1"), ("value", .float (.finite tenth))]])])]

def wireSignature : String := "a4e0578045fdf029613dc151caef9c0365c4000ea1576ed19563be8faa6745ca"

/-- The digest of the one body that is signed below. -/
def wireDigest (_ : List UInt8) (_ : List Char) : String := wireSignature

theorem isDigest_wireSignature : isDigest wireSignature = true := by decide +kernel

end PatrolBot.Tuning
