import PatrolBot.TuningEnvelope
import PatrolBot.TuningPolicy

/-!
# What the server admits passes the bridge

The two filters of a tuning wrapper are written apart.  What the server's leaves
of a request is collected once, holds in whatever order the keys stand, and is
all the bridge's filter asks, the room of the wrapper included.
-/

namespace PatrolBot.Tuning

/-! ### What an admitted request is -/

/-- A change of a save that the server lets through, with its id. -/
structure AdmittedChange (change : Json) (pid : String) : Prop where
  fields : ∃ fields, change = .obj fields ∧ Json.hasExactly fields ["id", "value"] = true ∧
    Json.get fields "id" = .str pid ∧ Bridge.changeValue (Json.get fields "value") = true ∧
    ∀ n, Json.get fields "value" = .int n → n.natAbs ≤ maxInt
  logical : isLogicalId pid = true

/-- The changes of a save, no two of one parameter. -/
def AdmittedChanges (changes : Json) : Prop :=
  ∃ items ids, changes = .list items ∧ 1 ≤ items.length ∧ items.length ≤ 32 ∧
    List.Forall₂ AdmittedChange items ids ∧ ids.Nodup

/-- A canonical UUID. -/
def IsUuid (value : Json) : Prop := ∃ id, value = .str id ∧ uuidShape id.toList = true

/-- The keys that hold a revision. -/
def revisionKeys : List String := ["base_revision", "expected_revision", "restore_revision"]

/-- What the server's checks leave of a request. -/
structure Admitted (fields : List (String × Json)) (operation : String) : Prop where
  known : operation ∈ operations
  operation_eq : Json.get fields "operation" = .str operation
  contract : Json.get fields "contract" = .str contractName
  version : Json.get fields "version" = .int contractVersion
  allowed : ∀ key, (Json.lookup key fields).isSome = true →
    key ∈ commonKeys ++ Bridge.extras operation
  required : ∀ key ∈ commonKeys, (Json.lookup key fields).isSome = true
  revision : ∀ key ∈ Bridge.extras operation, key ∈ revisionKeys →
    ∃ n, Json.get fields key = .int n ∧ 0 ≤ n ∧ n ≤ jsSafeInt
  target : operation = "restore" → Json.get fields "target" = .str "last_known_good"
  job : operation = "status" → (Json.lookup "job_id" fields).isSome = true →
    IsUuid (Json.get fields "job_id")
  changes : operation = "save" → AdmittedChanges (Json.get fields "changes")
  request_id : IsUuid (Json.get fields "request_id")
  generation : ∃ generation, Json.get fields "generation" = .obj generation ∧
    Json.hasExactly generation ["capability", "session_id"] = true ∧
    Json.get generation "capability" = .str capability ∧
    IsUuid (Json.get generation "session_id")

theorem isUuid_of_isSome {value : Json} (h : (canonicalUuid value).isSome = true) :
    IsUuid value := by
  cases value with
  | str id =>
    simp only [canonicalUuid] at h
    split at h
    · exact ⟨id, rfl, ‹_›⟩
    · exact absurd h (by simp)
  | _ => simp [canonicalUuid] at h

theorem IsUuid.isSome {value : Json} (h : IsUuid value) :
    (canonicalUuid value).isSome = true := by
  obtain ⟨id, rfl, hshape⟩ := h
  simp [canonicalUuid, hshape]

theorem get_of_lookup {fields : List (String × Json)} {key : String} {value : Json}
    (h : Json.lookup key fields = some value) : Json.get fields key = value := by
  rw [Json.get, h]
  rfl

theorem revision_of_check {payload : List (String × Json)} {key : String} {n : Int}
    (h : checkRevision payload key = .ok n) :
    Json.get payload key = .int n ∧ 0 ≤ n ∧ n ≤ jsSafeInt := by
  unfold checkRevision at h
  split at h
  · cases h
  · rename_i value hvalue
    split at h
    · cases h
    · rename_i revision hrevision
      simp only [bind_eq_ok, require_eq_ok, pure, Except.pure, Except.ok.injEq] at h
      obtain ⟨-, hbounds, rfl⟩ := h
      exact ⟨(get_of_lookup hvalue).trans (eq_of_strictInt hrevision), hbounds⟩

/-! ### The changes of a save -/

section

variable {index : Index} {registry : Registry}

theorem lookup_registryIndex {pid : String} {entry : Parameter}
    (h : (registryIndex registry).lookup pid = some entry) :
    entry ∈ registry ∧ entry.id = pid := by
  have hmem : (pid, entry) ∈ registryIndex registry := mem_of_lookup h
  refine ⟨?_, registryIndex_ids _ hmem⟩
  suffices key : ∀ (index : Index) (field : String × Parameter),
      field ∈ registry.foldl (fun index entry => insertAt entry.id entry index) index →
        field.2 ∈ registry ∨ field ∈ index by
    rcases key [] _ hmem with hentry | hnil
    · exact hentry
    · exact absurd hnil List.not_mem_nil
  clear h hmem
  induction registry with
  | nil => exact fun index field hfield => Or.inr hfield
  | cons parameter registry ih =>
    intro index field hfield
    rcases ih _ field hfield with hentry | hindex
    · exact Or.inl (List.mem_cons_of_mem _ hentry)
    · rcases mem_insertAt hindex with rfl | hindex
      · exact Or.inl List.mem_cons_self
      · exact Or.inr hindex

theorem changeValue_of_check {entry : Parameter} {value : Json}
    (h : checkValue entry value true = .ok ()) :
    Bridge.changeValue value = true ∧ ∀ n, value = .int n → n.natAbs ≤ maxInt := by
  have hnumber : ∀ value : Json, (finiteValue value).isSome = true →
      Bridge.changeValue value = true ∧ ∀ n, value = .int n → n.natAbs ≤ maxInt := by
    intro value hfinite
    cases value with
    | int n =>
      refine ⟨rfl, ?_⟩
      rintro _ ⟨⟩
      simp only [finiteValue] at hfinite
      split at hfinite
      · assumption
      · exact absurd hfinite (by simp)
    | float value =>
      refine ⟨?_, by simp⟩
      cases value <;> simp_all [finiteValue, Bridge.changeValue, PyFloat.isFinite]
    | _ => simp [finiteValue] at hfinite
  cases value with
  | bool value => exact ⟨rfl, by simp⟩
  | _ =>
    apply hnumber
    simp only [checkValue] at h
    split at h
    · split at h
      · cases h
      · rename_i hfinite
        rw [hfinite]
        rfl
    · cases h

theorem admitted_of_checkChange
    (hids : ∀ entry ∈ registry, entry.acceptsEdits = true → isLogicalId entry.id = true)
    {change : Json} {pair : String × Json}
    (h : checkChange change (registryIndex registry) = .ok pair) :
    AdmittedChange change pair.1 := by
  obtain ⟨fields, rfl⟩ : ∃ fields, change = .obj fields := by
    cases change with
    | obj fields => exact ⟨fields, rfl⟩
    | _ => simp [checkChange] at h
  unfold checkChange at h
  obtain ⟨_, hextra, h⟩ := bind_eq_ok.mp h
  have hextra := require_eq_ok.mp hextra
  cases hid : Json.get fields "id" with
  | str pid =>
    simp only [hid] at h
    obtain ⟨_, _, h⟩ := bind_eq_ok.mp h
    split at h
    · cases h
    · rename_i entry hentry
      simp only [bind_eq_ok, require_eq_ok] at h
      obtain ⟨-, -, -, -, -, hedit, h⟩ := h
      split at h
      · cases h
      · rename_i value hvalue
        simp only [bind_eq_ok, require_eq_ok, pure, Except.pure, Except.ok.injEq] at h
        obtain ⟨_, _, _, hcheck, rfl⟩ := h
        obtain ⟨hmem, rfl⟩ := lookup_registryIndex hentry
        have hget := get_of_lookup hvalue
        refine ⟨⟨fields, rfl, ?_, hid, ?_⟩, hids entry hmem hedit⟩
        · have hidsome : (Json.lookup "id" fields).isSome = true := by
            cases hlookup : Json.lookup "id" fields with
            | none => simp [Json.get, hlookup] at hid
            | some value => rfl
          simp only [Json.hasExactly, Bool.and_eq_true, List.all_eq_true]
          refine ⟨?_, ?_⟩
          · intro field hfield
            have hkey := List.filter_eq_nil_iff.mp hextra field.1 (List.mem_map_of_mem hfield)
            simpa [or_iff_not_imp_left] using hkey
          · intro key hkey
            simp only [List.mem_cons, List.not_mem_nil, or_false] at hkey
            rcases hkey with rfl | rfl
            · exact hidsome
            · rw [hvalue]
              rfl
        · rw [hget]
          exact changeValue_of_check hcheck
  | _ => simp [hid] at h

end

theorem admitted_of_checkChanges {registry : Registry}
    (hids : ∀ entry ∈ registry, entry.acceptsEdits = true → isLogicalId entry.id = true)
    {changes : List Json} {before resolved : List (String × Json)}
    (h : checkChanges (registryIndex registry) changes before = .ok resolved) :
    ∃ ids, List.Forall₂ AdmittedChange changes ids ∧ ids.Nodup ∧
      ∀ id ∈ ids, id ∉ before.map Prod.fst := by
  induction changes generalizing before with
  | nil => exact ⟨[], List.Forall₂.nil, List.nodup_nil, by simp⟩
  | cons change changes ih =>
    simp only [checkChanges, bind_eq_ok, require_eq_ok] at h
    obtain ⟨pair, hpair, _, hfresh, h⟩ := h
    obtain ⟨ids, hadmitted, hnodup, hapart⟩ := ih h
    refine ⟨pair.1 :: ids, List.Forall₂.cons (admitted_of_checkChange hids hpair) hadmitted, ?_, ?_⟩
    · rw [List.nodup_cons]
      refine ⟨?_, hnodup⟩
      intro hmem
      exact hapart pair.1 hmem (by simp)
    · intro id hid hbefore
      rcases List.mem_cons.mp hid with rfl | hid
      · exact hfresh hbefore
      · exact hapart id hid (by simp only [List.map_append, List.mem_append, hbefore, true_or])

theorem admitted_of_checkSave {registry : Registry}
    (hids : ∀ entry ∈ registry, entry.acceptsEdits = true → isLogicalId entry.id = true)
    {payload resolved : List (String × Json)}
    (h : checkSave payload (registryIndex registry) = .ok resolved) :
    (∃ n, Json.get payload "base_revision" = .int n ∧ 0 ≤ n ∧ n ≤ jsSafeInt) ∧
      AdmittedChanges (Json.get payload "changes") := by
  unfold checkSave at h
  obtain ⟨n, hrevision, h⟩ := bind_eq_ok.mp h
  refine ⟨⟨n, revision_of_check hrevision⟩, ?_⟩
  cases hchanges : Json.get payload "changes" with
  | list changes =>
    simp only [hchanges, bind_eq_ok, require_eq_ok] at h
    obtain ⟨_, hlength, h⟩ := h
    obtain ⟨ids, hadmitted, hnodup, -⟩ := admitted_of_checkChanges hids h
    exact ⟨changes, ids, rfl, hlength.1, hlength.2, hadmitted, hnodup⟩
  | _ => simp [hchanges] at h

/-! ### Requests -/

/-- What the operation's own checks leave. -/
structure AdmittedOperation (fields : List (String × Json)) (operation : String) : Prop where
  revision : ∀ key ∈ Bridge.extras operation, key ∈ revisionKeys →
    ∃ n, Json.get fields key = .int n ∧ 0 ≤ n ∧ n ≤ jsSafeInt
  target : operation = "restore" → Json.get fields "target" = .str "last_known_good"
  job : operation = "status" → (Json.lookup "job_id" fields).isSome = true →
    IsUuid (Json.get fields "job_id")
  changes : operation = "save" → AdmittedChanges (Json.get fields "changes")

theorem mem_operations {operation : String} (h : operation ∈ operations) :
    operation = "read" ∨ operation = "save" ∨ operation = "apply" ∨ operation = "redeploy" ∨
      operation = "status" ∨ operation = "restore" := by
  simpa [operations] using h

theorem admitted_of_checkOperation {registry : Registry}
    (hids : ∀ entry ∈ registry, entry.acceptsEdits = true → isLogicalId entry.id = true)
    {payload : List (String × Json)} {operation : String} (hknown : operation ∈ operations)
    (h : checkOperation operation payload (registryIndex registry) = .ok ()) :
    AdmittedOperation payload operation := by
  rcases mem_operations hknown with rfl | rfl | rfl | rfl | rfl | rfl
  · exact ⟨by simp [Bridge.extras], by simp, by simp, by simp⟩
  · simp only [checkOperation, bind_eq_ok] at h
    obtain ⟨resolved, hsave, -⟩ := h
    obtain ⟨hrevision, hchanges⟩ := admitted_of_checkSave hids hsave
    refine ⟨?_, by simp, by simp, fun _ => hchanges⟩
    intro key hkey hrev
    simp only [Bridge.extras, List.mem_cons, List.not_mem_nil, or_false] at hkey
    rcases hkey with rfl | rfl
    · exact hrevision
    · simp [revisionKeys] at hrev
  · simp only [checkOperation, bind_eq_ok] at h
    obtain ⟨n, hrevision, -⟩ := h
    refine ⟨?_, by simp, by simp, by simp⟩
    intro key hkey _
    obtain rfl : key = "expected_revision" := by simpa [Bridge.extras] using hkey
    exact ⟨n, revision_of_check hrevision⟩
  · simp only [checkOperation, bind_eq_ok] at h
    obtain ⟨n, hrevision, -⟩ := h
    refine ⟨?_, by simp, by simp, by simp⟩
    intro key hkey _
    obtain rfl : key = "expected_revision" := by simpa [Bridge.extras] using hkey
    exact ⟨n, revision_of_check hrevision⟩
  · refine ⟨by simp [Bridge.extras, revisionKeys], by simp, ?_, by simp⟩
    intro _ hsome
    simp only [checkOperation] at h
    cases hjob : Json.lookup "job_id" payload with
    | none => simp [hjob] at hsome
    | some job =>
      rw [hjob] at h
      rw [get_of_lookup hjob]
      exact isUuid_of_isSome (require_eq_ok.mp h)
  · simp only [checkOperation, bind_eq_ok, require_eq_ok] at h
    obtain ⟨n, hexpected, m, hrestore, _, -, htarget⟩ := h
    refine ⟨?_, fun _ => eq_of_isText htarget, by simp, by simp⟩
    intro key hkey hrev
    simp only [Bridge.extras, List.mem_cons, List.not_mem_nil, or_false] at hkey
    rcases hkey with rfl | rfl | rfl
    · exact ⟨n, revision_of_check hexpected⟩
    · exact ⟨m, revision_of_check hrestore⟩
    · simp [revisionKeys] at hrev

theorem allowedKeys_eq {operation : String} (h : operation ∈ operations) :
    allowedKeys operation = commonKeys ++ Bridge.extras operation := by
  rcases mem_operations h with rfl | rfl | rfl | rfl | rfl | rfl <;> rfl

theorem common_required {operation key : String} (h : operation ∈ operations)
    (hkey : key ∈ commonKeys) : key ∈ requiredKeys operation := by
  rcases mem_operations h with rfl | rfl | rfl | rfl | rfl | rfl
  case inl => exact hkey
  case inr.inr.inr.inr.inl => exact hkey
  all_goals exact List.mem_append_left _ hkey

/-- What the server admits. -/
theorem admitted_of_validateRequest {registry : Registry} {payload : List (String × Json)}
    (hids : ∀ entry ∈ registry, entry.acceptsEdits = true → isLogicalId entry.id = true)
    {request : List (String × Json)} (h : validateRequest registry (.obj payload) = .ok request) :
    ∃ operation, Admitted payload operation := by
  simp only [validateRequest, bind_eq_ok] at h
  obtain ⟨_, _, h⟩ := h
  cases hoperation : Json.get payload "operation" with
  | str operation =>
    simp only [hoperation, bind_eq_ok] at h
    obtain ⟨_, henvelope, _, hcheck, _⟩ := h
    simp only [checkEnvelope, bind_eq_ok, require_eq_ok] at henvelope
    obtain ⟨_, hknown, _, hextra, _, hmissing, _, hcontract, _, hversion, _, hrequest,
      hgeneration⟩ := henvelope
    have hop := admitted_of_checkOperation hids hknown hcheck
    refine ⟨operation, hknown, hoperation, eq_of_isText hcontract, eq_of_strictInt hversion, ?_, ?_,
      hop.revision, hop.target, hop.job, hop.changes, isUuid_of_isSome hrequest, ?_⟩
    · intro key hkey
      rw [← allowedKeys_eq hknown]
      have hallowed := List.filter_eq_nil_iff.mp hextra key ((lookup_isSome key).mp hkey)
      simpa using hallowed
    · intro key hkey
      have hpresent := List.filter_eq_nil_iff.mp hmissing key (common_required hknown hkey)
      rw [lookup_isSome]
      simpa using hpresent
    · unfold checkGeneration at hgeneration
      cases hfields : Json.get payload "generation" with
      | obj generation =>
        simp only [hfields, bind_eq_ok, require_eq_ok] at hgeneration
        obtain ⟨_, hkeys, _, hcapability, hsession⟩ := hgeneration
        exact ⟨generation, rfl, hkeys, eq_of_isText hcapability, isUuid_of_isSome hsession⟩
      | _ => simp [hfields] at hgeneration
  | _ => simp [hoperation] at h

/-! ### The order of the keys -/

theorem hasExactly_iff {fields : List (String × Json)} {keys : List String} :
    Json.hasExactly fields keys = true ↔
      (∀ key, (Json.lookup key fields).isSome = true → key ∈ keys) ∧
        ∀ key ∈ keys, (Json.lookup key fields).isSome = true := by
  simp only [Json.hasExactly, Bool.and_eq_true, List.all_eq_true, List.contains_eq_mem,
    decide_eq_true_eq]
  constructor
  · rintro ⟨hall, hkeys⟩
    refine ⟨?_, hkeys⟩
    intro key hkey
    obtain ⟨field, hfield, rfl⟩ := List.mem_map.mp ((lookup_isSome key).mp hkey)
    exact hall field hfield
  · rintro ⟨hall, hkeys⟩
    exact ⟨fun field hfield => hall field.1 ((lookup_isSome _).mpr (List.mem_map_of_mem hfield)),
      hkeys⟩

theorem isSome_lookup_sortFields (key : String) (fields : List (String × Json)) :
    (Json.lookup key (Json.sortFields fields)).isSome = (Json.lookup key fields).isSome := by
  rw [Json.lookup_sortFields, Option.isSome_map]

theorem hasExactly_sortFields (fields : List (String × Json)) (keys : List String) :
    Json.hasExactly (Json.sortFields fields) keys = Json.hasExactly fields keys := by
  rw [Bool.eq_iff_iff, hasExactly_iff, hasExactly_iff]
  simp only [isSome_lookup_sortFields]

theorem get_sortFields_str {fields : List (String × Json)} {key text : String}
    (h : Json.get fields key = .str text) : Json.get (Json.sortFields fields) key = .str text := by
  rw [Json.get_sortFields, h]
  rfl

theorem get_sortFields_int {fields : List (String × Json)} {key : String} {n : Int}
    (h : Json.get fields key = .int n) : Json.get (Json.sortFields fields) key = .int n := by
  rw [Json.get_sortFields, h]
  rfl

theorem sortKeys_list (items : List Json) :
    (Json.list items).sortKeys = .list (items.map Json.sortKeys) := by
  have hitems : ∀ items : List Json,
      Json.ofItems (JsonText.sortedItems (Json.toItems items)) = items.map Json.sortKeys := by
    intro items
    induction items with
    | nil => rfl
    | cons item items ih =>
      simp only [Json.toItems, JsonText.sortedItems, Json.ofItems, List.map_cons, ih]
      rfl
  exact congrArg Json.list (hitems items)

theorem IsUuid.get_sortFields {fields : List (String × Json)} {key : String}
    (h : IsUuid (Json.get fields key)) : IsUuid (Json.get (Json.sortFields fields) key) := by
  obtain ⟨id, hid, hshape⟩ := h
  exact ⟨id, get_sortFields_str hid, hshape⟩

theorem AdmittedChange.sortKeys {change : Json} {pid : String} (h : AdmittedChange change pid) :
    AdmittedChange change.sortKeys pid := by
  obtain ⟨⟨fields, rfl, hkeys, hid, hvalue, hsmall⟩, hlogical⟩ := h
  refine ⟨⟨Json.sortFields fields, rfl, (hasExactly_sortFields _ _).trans hkeys,
    get_sortFields_str hid, ?_⟩, hlogical⟩
  rw [Json.get_sortFields]
  cases hget : Json.get fields "value" with
  | list items => simp [hget, Bridge.changeValue] at hvalue
  | obj inner => simp [hget, Bridge.changeValue] at hvalue
  | _ => exact ⟨by rw [hget] at hvalue; exact hvalue, by rw [hget] at hsmall; exact hsmall⟩

theorem AdmittedChanges.sortKeys {changes : Json} (h : AdmittedChanges changes) :
    AdmittedChanges changes.sortKeys := by
  obtain ⟨items, ids, rfl, hone, hmax, hall, hnodup⟩ := h
  refine ⟨items.map Json.sortKeys, ids, sortKeys_list items, ?_, ?_, ?_, hnodup⟩
  · rwa [List.length_map]
  · rwa [List.length_map]
  · rw [List.forall₂_map_left_iff]
    exact hall.imp fun _ _ hchange => hchange.sortKeys

/-- A request is admitted in whatever order its keys stand. -/
theorem Admitted.sortFields {fields : List (String × Json)} {operation : String}
    (h : Admitted fields operation) : Admitted (Json.sortFields fields) operation where
  known := h.known
  operation_eq := get_sortFields_str h.operation_eq
  contract := get_sortFields_str h.contract
  version := get_sortFields_int h.version
  allowed key hkey := h.allowed key (by rwa [isSome_lookup_sortFields] at hkey)
  required key hkey := by
    rw [isSome_lookup_sortFields]
    exact h.required key hkey
  revision key hkey hrev := by
    obtain ⟨n, hn, hbounds⟩ := h.revision key hkey hrev
    exact ⟨n, get_sortFields_int hn, hbounds⟩
  target hop := get_sortFields_str (h.target hop)
  job hop hsome := by
    rw [isSome_lookup_sortFields] at hsome
    exact (h.job hop hsome).get_sortFields
  changes hop := by
    rw [Json.get_sortFields]
    exact (h.changes hop).sortKeys
  request_id := h.request_id.get_sortFields
  generation := by
    obtain ⟨generation, hgeneration, hkeys, hcapability, hsession⟩ := h.generation
    refine ⟨Json.sortFields generation, ?_, (hasExactly_sortFields _ _).trans hkeys,
      get_sortFields_str hcapability, hsession.get_sortFields⟩
    rw [Json.get_sortFields, hgeneration]
    rfl

/-! ### The bridge's checks of an admitted request -/

section

variable {fields : List (String × Json)} {operation : String}

theorem changesReason_admitted {items : List Json} {ids before : List String}
    (h : List.Forall₂ AdmittedChange items ids) (hnodup : ids.Nodup)
    (hapart : ∀ id ∈ ids, id ∉ before) : Bridge.changesReason items before = .ok () := by
  induction h generalizing before with
  | nil => rfl
  | @cons change pid items ids hchange _ ih =>
    obtain ⟨⟨fields, rfl, hkeys, hid, hvalue, -⟩, hlogical⟩ := hchange
    simp only [isLogicalId, Bool.and_eq_true, decide_eq_true_eq] at hlogical
    rw [List.nodup_cons] at hnodup
    have hreason : Bridge.changeReason (.obj fields) before = .ok pid := by
      simp only [Bridge.changeReason, entries, bind_eq_ok, Bridge.ensure_eq_ok, hid, asText]
      exact ⟨(), hkeys, (), ⟨hlogical.1, hlogical.2, hapart pid List.mem_cons_self⟩, (), hvalue,
        rfl⟩
    simp only [Bridge.changesReason, hreason, bind, Except.bind]
    apply ih hnodup.2
    intro other hother hbefore
    rcases List.mem_append.mp hbefore with hbefore | hself
    · exact hapart other (List.mem_cons_of_mem _ hother) hbefore
    · obtain rfl := List.mem_singleton.mp hself
      exact hnodup.1 hother

theorem revisionReason_admitted (h : Admitted fields operation) {key : String}
    (hkey : key ∈ revisionKeys) : Bridge.revisionReason operation fields key = .ok () := by
  unfold Bridge.revisionReason
  split
  · rename_i hextra
    obtain ⟨n, hn, hpos, hsafe⟩ := h.revision key (by simpa using hextra) hkey
    rw [Bridge.ensure_eq_ok, hn]
    simp only [strictInt, Option.any_some, decide_eq_true_eq]
    exact ⟨hpos, hsafe⟩
  · rfl

theorem operationReason_admitted (h : Admitted fields operation) :
    Bridge.operationReason operation fields = .ok () := by
  simp only [Bridge.operationReason, bind_eq_ok, Bridge.ensure_eq_ok]
  refine ⟨(), ⟨?_, ?_⟩, (), revisionReason_admitted h (by decide), (),
    revisionReason_admitted h (by decide), (), revisionReason_admitted h (by decide), (), ?_, (),
    ?_, ?_⟩
  · exact fun key hkey => h.allowed key ((lookup_isSome key).mpr hkey)
  · exact fun key hkey => (lookup_isSome key).mp (h.required key hkey)
  · intro hop
    rw [h.target hop]
    decide
  · exact fun hop hsome => (h.job hop hsome).isSome
  · split
    · rename_i hop
      obtain ⟨items, ids, hitems, hone, hmax, hall, hnodup⟩ := h.changes hop
      simp only [hitems, Bridge.saveReason, bind_eq_ok, Bridge.ensure_eq_ok]
      exact ⟨(), ⟨hone, hmax⟩, changesReason_admitted hall hnodup (by simp)⟩
    · rfl

theorem requestReason_admitted (h : Admitted fields operation) {actor : Json}
    {authorization : Option Json}
    (hauthority : Bridge.authorityReason operation actor authorization = .ok ()) :
    Bridge.requestReason (.obj fields) actor authorization = .ok () := by
  obtain ⟨generation, hgeneration, hkeys, hcapability, hsession⟩ := h.generation
  simp only [Bridge.requestReason, entries, h.operation_eq, asText, bind_eq_ok,
    Bridge.ensure_eq_ok, hgeneration, Bridge.generationReason]
  refine ⟨(), ⟨?_, ?_⟩, (), h.known, (), hauthority, (), operationReason_admitted h, (),
    h.request_id.isSome, hkeys, ?_, hsession.isSome⟩
  · rw [h.contract]
    decide
  · rw [h.version]
    rfl
  · rw [hcapability]
    decide

end

/-! ### Room -/

mutual

/-- A value the interpreter can hold: the keys of each dictionary are distinct,
    and every finite float is a double. -/
def Held (floats : FloatTexts) : Json → Prop
  | .float (.finite q) => floats.held q = true
  | .list items => HeldItems floats items
  | .obj fields => (fields.map Prod.fst).Nodup ∧ HeldFields floats fields
  | _ => True

def HeldItems (floats : FloatTexts) : List Json → Prop
  | [] => True
  | item :: items => Held floats item ∧ HeldItems floats items

def HeldFields (floats : FloatTexts) : List (String × Json) → Prop
  | [] => True
  | (_, value) :: fields => Held floats value ∧ HeldFields floats fields

end

section

variable {floats : FloatTexts} {fields : List (String × Json)} {items : List Json}

theorem heldFields_iff :
    HeldFields floats fields ↔ ∀ field ∈ fields, Held floats field.2 := by
  induction fields with
  | nil => simp [HeldFields]
  | cons field fields ih =>
    obtain ⟨key, value⟩ := field
    simp [HeldFields, ih]

theorem heldItems_iff : HeldItems floats items ↔ ∀ item ∈ items, Held floats item := by
  induction items with
  | nil => simp [HeldItems]
  | cons item items ih => simp [HeldItems, ih]

/-- A dictionary looks each of its fields up. -/
theorem get_of_mem (hnodup : (fields.map Prod.fst).Nodup) {field : String × Json}
    (hfield : field ∈ fields) : Json.get fields field.1 = field.2 := by
  induction fields with
  | nil => exact absurd hfield List.not_mem_nil
  | cons head fields ih =>
    obtain ⟨key, value⟩ := head
    rw [List.map_cons, List.nodup_cons] at hnodup
    rcases List.mem_cons.mp hfield with rfl | hfield
    · simp [Json.get, Json.lookup]
    · have hmem : field.1 ∈ fields.map Prod.fst := List.mem_map_of_mem hfield
      have hne : key ≠ field.1 := fun heq => hnodup.1 (heq ▸ hmem)
      have hget := ih hnodup.2 hfield
      simp only [Json.get, Json.lookup, if_neg hne] at hget ⊢
      exact hget

/-- The room of a value in a compact text. -/
abbrev Room (floats : FloatTexts) (room : Nat) (value : Json) : Prop :=
  JsonText.Fits floats.numbers room value.toValue

theorem toFields_eq_map (fields : List (String × Json)) :
    Json.toFields fields = fields.map fun field => (field.1, field.2.toValue) := by
  induction fields with
  | nil => rfl
  | cons field fields ih =>
    obtain ⟨key, value⟩ := field
    simp [Json.toFields, ih]

theorem toItems_eq_map (items : List Json) : Json.toItems items = items.map Json.toValue := by
  induction items with
  | nil => rfl
  | cons item items ih => simp [Json.toItems, ih]

theorem fits_object (floats : FloatTexts) {fields : List (String × Json)} (keys : List String)
    (room : String → Nat)
    (hnodup : (fields.map Prod.fst).Nodup) (hkeys : ∀ key ∈ fields.map Prod.fst, key ∈ keys)
    (h : ∀ key ∈ keys, (Json.lookup key fields).isSome = true →
      Room floats (room key) (Json.get fields key)) :
    Room floats (2 + (keys.map fun key =>
      (JsonText.stringBody key.toList).length + room key + 3).sum) (.obj fields) := by
  unfold Room
  rw [Json.toValue, toFields_eq_map]
  apply JsonText.fits_obj
  · rwa [List.map_map]
  · intro field hfield
    obtain ⟨original, horiginal, rfl⟩ := List.mem_map.mp hfield
    exact hkeys original.1 (List.mem_map_of_mem horiginal)
  · intro field hfield
    obtain ⟨original, horiginal, rfl⟩ := List.mem_map.mp hfield
    have hmem := List.mem_map_of_mem (f := Prod.fst) horiginal
    have hfits := h original.1 (hkeys original.1 hmem) ((lookup_isSome _).mpr hmem)
    rwa [get_of_mem hnodup horiginal] at hfits

theorem isPlain_of_le {c : Char} (hlow : ' ' ≤ c) (hhigh : c ≤ '~') (hquote : c ≠ '"')
    (hslash : c ≠ '\\') : JsonText.isPlain c = true := by
  have hcontrol : ∀ d : Char, ¬(' ' ≤ d) → c ≠ d := by
    rintro d hd rfl
    exact hd hlow
  have hn := hcontrol '\n' (by decide)
  have hr := hcontrol '\r' (by decide)
  have ht := hcontrol '\t' (by decide)
  have hf := hcontrol '\x0c' (by decide)
  have hb := hcontrol '\x08' (by decide)
  simp [JsonText.isPlain, JsonText.escape, hquote, hslash, hn, hr, ht, hf, hb, hlow, hhigh]

theorem isPlain_of_idCharacter {c : Char} (h : idCharacter c = true) :
    JsonText.isPlain c = true := by
  have hquote : c ≠ '"' := by
    rintro rfl
    revert h
    decide
  have hslash : c ≠ '\\' := by
    rintro rfl
    revert h
    decide
  simp only [idCharacter, Bool.or_eq_true, Bool.and_eq_true, decide_eq_true_eq, beq_iff_eq] at h
  rcases h with (⟨hlow, hhigh⟩ | ⟨hlow, hhigh⟩) | rfl
  · exact isPlain_of_le (le_trans (by decide) hlow) (le_trans hhigh (by decide)) hquote hslash
  · exact isPlain_of_le (le_trans (by decide) hlow) (le_trans hhigh (by decide)) hquote hslash
  · decide

theorem isPlain_of_lowerHex {c : Char} (h : lowerHex c = true) : JsonText.isPlain c = true := by
  apply isPlain_of_idCharacter
  simp only [lowerHex, idCharacter, Bool.or_eq_true, Bool.and_eq_true, decide_eq_true_eq] at h ⊢
  rcases h with ⟨hlow, hhigh⟩ | ⟨hlow, hhigh⟩
  · exact Or.inl (Or.inr ⟨hlow, hhigh⟩)
  · exact Or.inl (Or.inl ⟨hlow, le_trans hhigh (by decide)⟩)

theorem plain_of_logicalTail {fresh : Bool} {characters : List Char}
    (h : logicalTail fresh characters = true) : characters.all JsonText.isPlain = true := by
  induction characters generalizing fresh with
  | nil => rfl
  | cons c characters ih =>
    rw [List.all_cons, Bool.and_eq_true]
    by_cases hdot : c = '.'
    · subst hdot
      simp only [logicalTail, Bool.and_eq_true] at h
      exact ⟨by decide, ih h.2⟩
    · rw [logicalTail, Bool.and_eq_true] at h
      · exact ⟨isPlain_of_idCharacter h.1, ih h.2⟩
      · exact hdot

theorem plain_of_logicalId {text : String} (h : isLogicalId text = true) :
    text.toList.all JsonText.isPlain = true := by
  simp only [isLogicalId, Bool.and_eq_true] at h
  generalize text.toList = characters at h
  cases characters with
  | nil => rfl
  | cons c characters =>
    simp only [logicalIdPattern, Bool.and_eq_true, decide_eq_true_eq] at h
    rw [List.all_cons, Bool.and_eq_true]
    refine ⟨isPlain_of_idCharacter ?_, plain_of_logicalTail h.2.2⟩
    simp only [idCharacter, h.2.1.1, h.2.1.2, decide_true, Bool.and_self, Bool.true_or]

theorem room_str {text : String} {room : Nat} (hplain : text.toList.all JsonText.isPlain = true)
    (hroom : text.length + 2 ≤ room) : Room floats room (.str text) :=
  (JsonText.fits_plain _ hplain).mono _ hroom

theorem room_uuid {value : Json} (h : IsUuid value) : Room floats 38 value := by
  obtain ⟨id, rfl, hshape⟩ := h
  simp only [uuidShape, Bool.and_eq_true, decide_eq_true_eq, List.all_eq_true] at hshape
  refine room_str ?_ (by rw [← String.length_toList, hshape.1])
  rw [List.all_eq_true]
  intro c hc
  obtain ⟨i, hi, rfl⟩ := List.getElem_of_mem hc
  have hat := hshape.2 (id.toList[i], i) (by simp [List.mem_zipIdx_iff_getElem?, hi])
  dsimp only at hat
  split at hat
  · rw [beq_iff_eq] at hat
    rw [hat]
    decide
  · exact isPlain_of_lowerHex hat

theorem room_int {n : Int} (digits : Nat) (hn : n.natAbs < 10 ^ digits) (hpos : 0 < digits)
    (hdigits : digits ≤ FloatTexts.maxStrDigits) : Room floats (digits + 1) (.int n) :=
  JsonText.fits_int _ hn hpos hdigits

theorem room_revision {value : Json} (h : ∃ n, value = .int n ∧ 0 ≤ n ∧ n ≤ jsSafeInt) :
    Room floats 17 value := by
  obtain ⟨n, rfl, hpos, hsafe⟩ := h
  have hbound : jsSafeInt = 9007199254740991 := rfl
  exact room_int 16 (by omega) (by decide) (by decide)

theorem room_changeValue {value : Json} (hheld : Held floats value)
    (hvalue : Bridge.changeValue value = true) (hsmall : ∀ n, value = .int n → n.natAbs ≤ maxInt) :
    Room floats 24 value := by
  cases value with
  | int n =>
    have hbound : maxInt = 9223372036854775807 := rfl
    have hn := hsmall n rfl
    exact (room_int 19 (by omega) (by decide) (by decide)).mono _ (by decide)
  | bool value => exact (JsonText.fits_bool _ value).mono _ (by decide)
  | float value =>
    cases value with
    | finite q =>
      have hq : floats.held q = true := hheld
      exact ⟨hq, floats.length_repr q hq⟩
    | _ => simp [Bridge.changeValue, PyFloat.isFinite] at hvalue
  | _ => simp [Bridge.changeValue] at hvalue

/-- The room of the fields of a change. -/
def changeRoom : String → Nat
  | "id" => 66
  | _ => 24

theorem room_change {change : Json} {pid : String} (hheld : Held floats change)
    (h : AdmittedChange change pid) : Room floats 107 change := by
  obtain ⟨⟨fields, rfl, hkeys, hid, hvalue, hsmall⟩, hlogical⟩ := h
  obtain ⟨hnodup, hfields⟩ := hheld
  rw [hasExactly_iff] at hkeys
  have hroom := fits_object floats ["id", "value"] changeRoom hnodup
    (fun key hkey => hkeys.1 key ((lookup_isSome key).mpr hkey)) ?_
  · exact hroom.mono _ (by decide)
  · intro key hkey hsome
    simp only [List.mem_cons, List.not_mem_nil, or_false] at hkey
    rcases hkey with rfl | rfl
    · have hlength := hlogical
      simp only [isLogicalId, Bool.and_eq_true, decide_eq_true_eq] at hlength
      rw [hid]
      exact room_str (plain_of_logicalId hlogical) (Nat.add_le_add_right hlength.1 2)
    · obtain ⟨field, hfield, hkey⟩ := List.mem_map.mp ((lookup_isSome _).mp hsome)
      have hget := get_of_mem hnodup hfield
      rw [hkey] at hget
      refine room_changeValue ?_ hvalue hsmall
      rw [hget]
      exact heldFields_iff.mp hfields field hfield

theorem admitted_of_mem {items : List Json} {ids : List String}
    (h : List.Forall₂ AdmittedChange items ids) {item : Json} (hitem : item ∈ items) :
    ∃ pid, AdmittedChange item pid := by
  induction h with
  | nil => exact absurd hitem List.not_mem_nil
  | cons hadmitted _ ih =>
    rcases List.mem_cons.mp hitem with rfl | hitem
    · exact ⟨_, hadmitted⟩
    · exact ih hitem

theorem room_changes {changes : Json} (hheld : Held floats changes) (h : AdmittedChanges changes) :
    Room floats 3458 changes := by
  obtain ⟨items, ids, rfl, -, hmax, hall, -⟩ := h
  have hitems := heldItems_iff.mp hheld
  have hroom : ∀ item ∈ Json.toItems items, JsonText.Fits floats.numbers 107 item := by
    intro item hitem
    rw [toItems_eq_map] at hitem
    obtain ⟨original, horiginal, rfl⟩ := List.mem_map.mp hitem
    obtain ⟨pid, hadmitted⟩ := admitted_of_mem hall horiginal
    exact room_change (hitems original horiginal) hadmitted
  refine (JsonText.fits_list _ hroom).mono _ ?_
  rw [toItems_eq_map, List.length_map]
  omega

/-- The room of the fields of a generation. -/
def generationRoom : String → Nat
  | "capability" => 17
  | _ => 38

theorem room_generation {generation : List (String × Json)}
    (hnodup : (generation.map Prod.fst).Nodup)
    (hkeys : Json.hasExactly generation ["capability", "session_id"] = true)
    (hcapability : Json.get generation "capability" = .str capability)
    (hsession : IsUuid (Json.get generation "session_id")) :
    Room floats 85 (.obj generation) := by
  rw [hasExactly_iff] at hkeys
  have hroom := fits_object floats ["capability", "session_id"] generationRoom hnodup
    (fun key hkey => hkeys.1 key ((lookup_isSome key).mpr hkey)) ?_
  · exact hroom.mono _ (by decide)
  · intro key hkey _
    simp only [List.mem_cons, List.not_mem_nil, or_false] at hkey
    rcases hkey with rfl | rfl
    · rw [hcapability]
      exact room_str (by decide) (by decide)
    · exact room_uuid hsession

/-- The room of the fields of a request. -/
def requestRoom : String → Nat
  | "contract" => 24
  | "version" => 2
  | "operation" => 10
  | "generation" => 85
  | "base_revision" => 17
  | "expected_revision" => 17
  | "restore_revision" => 17
  | "changes" => 3458
  | "target" => 17
  | _ => 38

/-- An operation's request in full takes less than a quarter of what is allowed. -/
theorem requestRoom_le {operation : String} (h : operation ∈ operations) :
    2 + ((commonKeys ++ Bridge.extras operation).map fun key =>
      (JsonText.stringBody key.toList).length + requestRoom key + 3).sum ≤ 4096 := by
  rcases mem_operations h with rfl | rfl | rfl | rfl | rfl | rfl <;> decide

theorem operation_plain {operation : String} (h : operation ∈ operations) :
    operation.toList.all JsonText.isPlain = true ∧ operation.length + 2 ≤ 10 := by
  rcases mem_operations h with rfl | rfl | rfl | rfl | rfl | rfl <;> decide

theorem room_request {operation : String} (hheld : Held floats (.obj fields))
    (h : Admitted fields operation) : Room floats 4096 (.obj fields) := by
  obtain ⟨hnodup, hfields⟩ := hheld
  have hheld : ∀ key, (Json.lookup key fields).isSome = true →
      Held floats (Json.get fields key) := by
    intro key hsome
    obtain ⟨field, hfield, rfl⟩ := List.mem_map.mp ((lookup_isSome key).mp hsome)
    rw [get_of_mem hnodup hfield]
    exact heldFields_iff.mp hfields field hfield
  have hroom := fits_object floats (commonKeys ++ Bridge.extras operation) requestRoom hnodup
    (fun key hkey => h.allowed key ((lookup_isSome key).mpr hkey)) ?_
  · exact hroom.mono _ (requestRoom_le h.known)
  · intro key hkey hsome
    rcases List.mem_append.mp hkey with hcommon | hextra
    · simp only [commonKeys, List.mem_cons, List.not_mem_nil, or_false] at hcommon
      rcases hcommon with rfl | rfl | rfl | rfl | rfl
      · rw [h.contract]
        exact room_str (by decide) (by decide)
      · rw [h.version]
        exact room_int 1 (by decide) (by decide) (by decide)
      · rw [h.operation_eq]
        exact room_str (operation_plain h.known).1 (operation_plain h.known).2
      · exact room_uuid h.request_id
      · obtain ⟨generation, hgeneration, hkeys, hcapability, hsession⟩ := h.generation
        have hgen := hheld "generation" hsome
        rw [hgeneration] at hgen ⊢
        exact room_generation hgen.1 hkeys hcapability hsession
    · have hrevision : key ∈ revisionKeys → Room floats 17 (Json.get fields key) :=
        fun hrev => room_revision (h.revision key hextra hrev)
      rcases mem_operations h.known with rfl | rfl | rfl | rfl | rfl | rfl
      · exact absurd hextra List.not_mem_nil
      · simp only [Bridge.extras, List.mem_cons, List.not_mem_nil, or_false] at hextra
        rcases hextra with rfl | rfl
        · exact hrevision (by decide)
        · exact room_changes (hheld "changes" hsome) (h.changes rfl)
      · obtain rfl := List.mem_singleton.mp hextra
        exact hrevision (by decide)
      · obtain rfl := List.mem_singleton.mp hextra
        exact hrevision (by decide)
      · obtain rfl := List.mem_singleton.mp hextra
        exact room_uuid (h.job rfl hsome)
      · simp only [Bridge.extras, List.mem_cons, List.not_mem_nil, or_false] at hextra
        rcases hextra with rfl | rfl | rfl
        · exact hrevision (by decide)
        · exact hrevision (by decide)
        · rw [h.target rfl]
          exact room_str (by decide) (by decide)

end

/-! ### The wrapper -/

section

variable {floats : FloatTexts} {hmac : List UInt8 → List Char → String}
variable {user : User} {actor request wrapper : Json} {key : List UInt8} {robotId : String}

def actorFields (user : User) : List (String × Json) :=
  [("id", .int user.id), ("username", .str user.username), ("role", .str user.role)]

/-- The actor block of a user. -/
def actorBlock (user : User) : Json := .obj (actorFields user)

theorem actorFromUser_eq_some :
    actorFromUser user = some actor ↔ (user.role ∈ roles ∧ 1 ≤ user.username.length ∧
      user.username.length ≤ maxUsername) ∧ actor = actorBlock user := by
  unfold actorFromUser actorBlock actorFields
  split
  · rename_i h
    simp only [Option.some.injEq]
    constructor
    · rintro rfl
      exact ⟨⟨by simpa using h.1, h.2⟩, rfl⟩
    · exact fun hactor => hactor.2.symm
  · rename_i h
    constructor
    · intro hnone
      exact absurd hnone (by simp)
    · rintro ⟨hfields, -⟩
      exact absurd ⟨by simpa using hfields.1, hfields.2⟩ h

theorem actorReason_block {fields : List (String × Json)} {id : Int} {username role : String}
    (hkeys : Json.hasExactly fields ["id", "username", "role"] = true)
    (hid : Json.get fields "id" = .int id) (husername : Json.get fields "username" = .str username)
    (hrole : Json.get fields "role" = .str role)
    (h : role ∈ roles ∧ 1 ≤ username.length ∧ username.length ≤ maxUsername) :
    Bridge.actorReason (.obj fields) = .ok () := by
  simp only [Bridge.actorReason, entries, Bridge.ensure_eq_ok, hid, husername, hrole, strictInt,
    asText, Option.isSome_some, Option.any_some, decide_eq_true_eq]
  exact ⟨hkeys, trivial, h.2, by simpa using h.1⟩

/-- The room of the fields of an actor. -/
def actorRoom : String → Nat
  | "id" => 4301
  | "username" => 1538
  | _ => 15

theorem role_plain {role : String} (h : role ∈ roles) :
    role.toList.all JsonText.isPlain = true ∧ role.length + 2 ≤ 15 := by
  simp only [roles, List.mem_cons, List.not_mem_nil, or_false] at h
  rcases h with rfl | rfl | rfl <;> decide

theorem room_actor (hrole : user.role ∈ roles) (hname : user.username.length ≤ maxUsername)
    (hid : user.id.natAbs < 10 ^ FloatTexts.maxStrDigits) :
    Room floats 5882 (actorBlock user) := by
  have hroom := @fits_object floats (actorFields user) ["id", "username", "role"] actorRoom
    (by simp [actorFields]) (by simp [actorFields]) ?_
  · exact hroom.mono _ (by decide)
  · intro key hkey _
    simp only [List.mem_cons, List.not_mem_nil, or_false] at hkey
    rcases hkey with rfl | rfl | rfl
    · exact room_int FloatTexts.maxStrDigits hid (Nat.succ_pos _) (le_refl _)
    · have hmax : maxUsername = 128 := rfl
      exact (JsonText.fits_str _ user.username).mono _ (by simp only [actorRoom]; omega)
    · exact room_str (role_plain hrole).1 (role_plain hrole).2

theorem room_sortKeys {value : Json} {room : Nat} (h : Room floats room value) :
    Room floats room value.sortKeys := by
  unfold Room
  rw [Json.toValue_sortKeys]
  exact JsonText.fits_sorted _ h

/-- The room of the fields of the claims. -/
def claimRoom : String → Nat
  | "version" => 2
  | "robot_id" => 1538
  | "signature" => 66
  | _ => 17

/-- The claims that leave the server. -/
def signedClaims (robotId : String) (issued : Int) (signature : String) : List (String × Json) :=
  sentClaims robotId issued ++ [("signature", .str signature)]

theorem room_claims {issued : Int} {signature : String} (hrobot : robotId.length ≤ 128)
    (hissued : 0 ≤ issued) (hsafe : issued + maxLifetimeMs ≤ jsSafeInt)
    (hsignature : isDigest signature = true) :
    Room floats 1711 (.obj (signedClaims robotId issued signature)) := by
  have hlifetime : maxLifetimeMs = 30000 := rfl
  have hroom := @fits_object floats (signedClaims robotId issued signature) claimKeys claimRoom
    (by simp [signedClaims, sentClaims]) (by simp [signedClaims, sentClaims, claimKeys]) ?_
  · exact hroom.mono _ (by decide)
  · intro key hkey _
    simp only [claimKeys, List.mem_cons, List.not_mem_nil, or_false] at hkey
    rcases hkey with rfl | rfl | rfl | rfl | rfl
    · exact room_int 1 (by decide) (by decide) (by decide)
    · exact (JsonText.fits_str _ robotId).mono _ (by simp only [claimRoom]; omega)
    · exact room_revision ⟨issued, rfl, hissued, by omega⟩
    · exact room_revision ⟨issued + maxLifetimeMs, rfl, by omega, hsafe⟩
    · simp only [isDigest, Bool.and_eq_true, decide_eq_true_eq, List.all_eq_true] at hsignature
      refine room_str ?_ (by rw [hsignature.1]; decide)
      rw [List.all_eq_true]
      exact fun c hc => isPlain_of_lowerHex (hsignature.2 c hc)

/-- The room of the fields of a wrapper. -/
def wrapperRoom : String → Nat
  | "actor" => 5882
  | "authorization" => 1711
  | _ => 4096

theorem sizeReason_of_room {fields : List (String × Json)} (hnodup : (fields.map Prod.fst).Nodup)
    (hkeys : ∀ key ∈ fields.map Prod.fst, key ∈ ["actor", "authorization", "request"])
    (h : ∀ field ∈ fields, Room floats (wrapperRoom field.1) field.2) :
    Bridge.sizeReason floats (.obj fields) = .ok () := by
  have hroom := fits_object floats _ wrapperRoom hnodup hkeys ?_
  · have hle := le_trans hroom.2
      (show _ ≤ Bridge.maxRequestBytes by decide)
    simp only [Bridge.sizeReason, FloatTexts.dumps, if_pos hroom.1, Bridge.ensure_eq_ok]
    exact hle
  · intro key _ hsome
    obtain ⟨field, hfield, rfl⟩ := List.mem_map.mp ((lookup_isSome key).mp hsome)
    rw [get_of_mem hnodup hfield]
    exact h field hfield

theorem authorizationReason_signed {issued : Int} {signature : String}
    (hrobot : 1 ≤ robotId.length ∧ robotId.length ≤ 128) (hissued : 0 ≤ issued)
    (hsafe : issued + maxLifetimeMs ≤ jsSafeInt) (hsignature : isDigest signature = true) :
    Bridge.authorizationReason (.obj (signedClaims robotId issued signature)) = .ok () := by
  have hlifetime : maxLifetimeMs = 30000 := rfl
  have hbridge : Bridge.maxAuthorizationLifetimeMs = 30000 := rfl
  have hlimit : Bridge.maxSafeInt = jsSafeInt := rfl
  obtain ⟨-, hkeys, hgetissued, hgetexpires, hversion, hgetrobot, -⟩ :=
    checkedClaims_eq_ok.mp (checkedClaims_sent robotId signature hissued hsafe)
  dsimp only at hkeys hgetissued hgetexpires hversion hgetrobot
  have hgetsignature : Json.get (signedClaims robotId issued signature) "signature" =
      .str signature := rfl
  unfold signedClaims at hgetsignature ⊢
  simp only [Bridge.authorizationReason, entries, bind_eq_ok, Bridge.ensure_eq_ok, hversion,
    hgetrobot, hgetissued, hgetexpires, hgetsignature, Bridge.lifetimeReason, strictInt, asText,
    Option.any_some, decide_eq_true_eq]
  exact ⟨(), hkeys, (), trivial, (), hrobot, (), ⟨hissued, by omega, by omega, by omega, by omega,
    by omega⟩, hsignature⟩

theorem isMutation_or {operation : String} (h : operation ∈ operations) :
    operation ∈ mutationOperations ∨ operation ∈ ["read", "status"] := by
  rcases mem_operations h with rfl | rfl | rfl | rfl | rfl | rfl <;> decide

theorem hasExactly_actorFields (user : User) :
    Json.hasExactly (actorFields user) ["id", "username", "role"] = true := by
  simp [Json.hasExactly, actorFields, Json.lookup]

/-- What `actor_from_user` builds, `validate_actor` accepts. -/
theorem validateActor_block (h : user.role ∈ roles ∧ 1 ≤ user.username.length ∧
    user.username.length ≤ maxUsername) :
    validateActor (actorBlock user) = .ok (actorFields user) := by
  have hid : Json.get (actorFields user) "id" = .int user.id := rfl
  have hname : Json.get (actorFields user) "username" = .str user.username := rfl
  have hrole : Json.get (actorFields user) "role" = .str user.role := rfl
  simp only [actorBlock, validateActor, bind_eq_ok, require_eq_ok, hid, hname, hrole, strictInt,
    asText, Option.isSome_some, Option.any_some, decide_eq_true_eq]
  exact ⟨(), hasExactly_actorFields user, (), trivial, (), h.2, (), by simpa using h.1, rfl⟩

/-- An actor block passes in whatever order its keys stand. -/
theorem actorReason_sorted (h : user.role ∈ roles ∧ 1 ≤ user.username.length ∧
    user.username.length ≤ maxUsername) :
    Bridge.actorReason (actorBlock user) = .ok () ∧
      Bridge.actorReason (actorBlock user).sortKeys = .ok () := by
  constructor
  · exact actorReason_block (hasExactly_actorFields user) rfl rfl rfl h
  · exact actorReason_block
      ((hasExactly_sortFields (actorFields user) _).trans (hasExactly_actorFields user))
      (get_sortFields_int rfl) (get_sortFields_str rfl) (get_sortFields_str rfl) h

/-- An id that was written has no more digits than the interpreter writes. -/
theorem id_of_writable (h : JsonText.writable floats.numbers (actorBlock user).toValue = true) :
    user.id.natAbs < 10 ^ FloatTexts.maxStrDigits := by
  simp only [actorBlock, actorFields, Json.toValue, Json.toFields, JsonText.writable,
    JsonText.writableFields, Bool.and_eq_true, decide_eq_true_eq] at h
  exact h.1

/-- A wrapper of a request that reads. -/
theorem wrapperReason_plain {payload : List (String × Json)} {operation : String}
    (hheld : Held floats (.obj payload)) (hadmitted : Admitted payload operation)
    (hread : operation ∈ ["read", "status"])
    (huser : user.role ∈ roles ∧ 1 ≤ user.username.length ∧ user.username.length ≤ maxUsername)
    (hid : user.id.natAbs < 10 ^ FloatTexts.maxStrDigits) :
    Bridge.wrapperReason floats (.obj [("request", .obj payload), ("actor", actorBlock user)]) =
      none := by
  have hauthority : Bridge.authorityReason operation (actorBlock user) none = .ok () := by
    simp only [Bridge.authorityReason, bind_eq_ok, Bridge.ensure_eq_ok]
    refine ⟨(), fun hnot => absurd hread hnot, ?_⟩
    simp only [List.mem_cons, List.not_mem_nil, or_false] at hread
    rcases hread with rfl | rfl <;> decide
  have hsize : Bridge.sizeReason floats
      (.obj [("request", .obj payload), ("actor", actorBlock user)]) = .ok () := by
    apply sizeReason_of_room
    · simp
    · simp
    · intro field hfield
      simp only [List.mem_cons, List.not_mem_nil, or_false] at hfield
      rcases hfield with rfl | rfl
      · exact room_request hheld hadmitted
      · exact room_actor huser.1 huser.2.2 hid
  have hcheck : Bridge.checkWrapper floats
      (.obj [("request", .obj payload), ("actor", actorBlock user)]) = .ok () := by
    simp only [Bridge.checkWrapper, entries, bind_eq_ok, Bridge.ensure_eq_ok]
    refine ⟨(), ⟨by simp, by simp⟩, (), (actorReason_sorted huser).1, (),
      requestReason_admitted hadmitted hauthority, hsize⟩
  simp only [Bridge.wrapperReason, hcheck]

/-- A wrapper of a signed mutation. -/
theorem wrapperReason_signed {payload : List (String × Json)} {operation signature : String}
    {issued : Int} (hheld : Held floats (.obj payload)) (hadmitted : Admitted payload operation)
    (huser : user.role ∈ roles ∧ 1 ≤ user.username.length ∧ user.username.length ≤ maxUsername)
    (hadministrator : user.role = "administrator")
    (hid : user.id.natAbs < 10 ^ FloatTexts.maxStrDigits)
    (hrobot : 1 ≤ robotId.length ∧ robotId.length ≤ 128) (hissued : 0 ≤ issued)
    (hsafe : issued + maxLifetimeMs ≤ jsSafeInt) (hsignature : isDigest signature = true) :
    Bridge.wrapperReason floats (.obj (sentFields (actorBlock user).sortKeys
      (Json.obj payload).sortKeys (signedClaims robotId issued signature))) = none := by
  have hauthority : Bridge.authorityReason operation (actorBlock user).sortKeys
      (some (.obj (signedClaims robotId issued signature))) = .ok () := by
    simp only [Bridge.authorityReason, bind_eq_ok, Bridge.ensure_eq_ok]
    refine ⟨(), fun _ => ?_, authorizationReason_signed hrobot hissued hsafe hsignature⟩
    have hrole : part (actorBlock user).sortKeys "role" = .str user.role :=
      get_sortFields_str rfl
    rw [hrole, hadministrator]
    decide
  have hsize : Bridge.sizeReason floats (.obj (sentFields (actorBlock user).sortKeys
      (Json.obj payload).sortKeys (signedClaims robotId issued signature))) = .ok () := by
    apply sizeReason_of_room
    · simp [sentFields]
    · simp [sentFields]
    · intro field hfield
      simp only [sentFields, List.mem_cons, List.not_mem_nil, or_false] at hfield
      rcases hfield with rfl | rfl | rfl
      · exact room_sortKeys (room_actor huser.1 huser.2.2 hid)
      · exact room_claims hrobot.2 hissued hsafe hsignature
      · exact room_sortKeys (room_request hheld hadmitted)
  have hcheck : Bridge.checkWrapper floats (.obj (sentFields (actorBlock user).sortKeys
      (Json.obj payload).sortKeys (signedClaims robotId issued signature))) = .ok () := by
    simp only [Bridge.checkWrapper, entries, bind_eq_ok, Bridge.ensure_eq_ok]
    refine ⟨(), ⟨by simp [sentFields], by simp [sentFields]⟩, (), (actorReason_sorted huser).2, (),
      requestReason_admitted hadmitted.sortFields hauthority, hsize⟩
  simp only [Bridge.wrapperReason, hcheck]

end

/-- What the server admits and wraps, the bridge lets through: a mutation that
    was signed half a minute before the last millisecond a script counts, and a
    reading whose actor has an id the interpreter can write. -/
theorem admitted_passes (floats : FloatTexts) (hmac : List UInt8 → List Char → String)
    (key : List UInt8) (hshape : ∀ message, isDigest (hmac key message) = true)
    (registry : Registry) (payload request : List (String × Json)) (user : User)
    (actor wrapper : Json) (robotId : String) (clock : PyFloat)
    (hids : ∀ entry ∈ registry, entry.acceptsEdits = true → isLogicalId entry.id = true)
    (hheld : Held floats (.obj payload))
    (hrequest : validateRequest registry (.obj payload) = .ok request)
    (hactor : actorFromUser user = some actor)
    (hmutation : operationOf (.obj payload) ∈ mutationOperations →
      user.role = "administrator" ∧
        ∀ issued, clockMs clock = .ok issued → issued + 30000 ≤ 2 ^ 53 - 1)
    (hreading : operationOf (.obj payload) ∉ mutationOperations →
      user.id.natAbs < 10 ^ FloatTexts.maxStrDigits)
    (hwrapper : wrapperOf floats hmac key robotId clock (.obj payload) actor = .ok wrapper) :
    failureCode (validateActor actor) = none ∧ Bridge.wrapperReason floats wrapper = none := by
  obtain ⟨huser, rfl⟩ := actorFromUser_eq_some.mp hactor
  obtain ⟨operation, hadmitted⟩ := admitted_of_validateRequest hids hrequest
  have hoperation : operationOf (.obj payload) = operation := by
    have hget : part (.obj payload) "operation" = .str operation := hadmitted.operation_eq
    rw [operationOf, hget]
    rfl
  rw [hoperation] at hmutation hreading
  have hactorOk : failureCode (validateActor (actorBlock user)) = none := by
    rw [failureCode_eq_none]
    exact ⟨_, validateActor_block huser⟩
  refine ⟨hactorOk, ?_⟩
  unfold wrapperOf at hwrapper
  rw [hoperation] at hwrapper
  split at hwrapper
  · rename_i hmut
    obtain ⟨hadministrator, hclock⟩ := hmutation hmut
    have hdict : Dict (.obj [("request", .obj payload), ("actor", actorBlock user)]) := by
      simp [Dict, entries]
    obtain ⟨_, _, issued, raw, signature, rfl, rfl, hissued, hrobot, -, -, hraw, rfl, rfl⟩ :=
      sign_ok_cases hdict hwrapper
    have hactorPart : part (.obj [("request", .obj payload), ("actor", actorBlock user)]) "actor" =
        actorBlock user := rfl
    have hrequestPart : part (.obj [("request", .obj payload), ("actor", actorBlock user)])
        "request" = .obj payload := rfl
    rw [hactorPart, hrequestPart] at hraw ⊢
    have hwritable : JsonText.writable floats.numbers (actorBlock user).toValue = true := by
      have hdumps := (canonical_eq_ok.mp hraw).1
      unfold FloatTexts.dumpsSorted at hdumps
      split at hdumps
      · rename_i hall
        simp only [sentFields, Json.toValue, Json.toFields, JsonText.writable,
          JsonText.writableFields, Bool.and_eq_true, Json.toValue_sortKeys,
          JsonText.writable_sorted] at hall
        exact hall.1
      · exact absurd hdumps (by simp)
    exact wrapperReason_signed hheld hadmitted huser hadministrator (id_of_writable hwritable)
      hrobot (clockMs_nonneg hissued) (hclock issued hissued) (hshape _)
  · rename_i hread
    obtain rfl := Except.ok.inj hwrapper
    exact wrapperReason_plain hheld hadmitted
      ((isMutation_or hadmitted.known).resolve_left hread) huser (hreading hread)

/-! ### One mutation and one reading -/

def sampleId : String := "01234567-89ab-4cde-8f01-23456789abcd"

/-- The fields every operation has. -/
def sampleCommon (operation : String) : List (String × Json) :=
  [("contract", .str contractName), ("version", .int 1), ("operation", .str operation),
    ("request_id", .str sampleId),
    ("generation", .obj [("capability", .str capability), ("session_id", .str sampleId)])]

def sampleApply : List (String × Json) := sampleCommon "apply" ++ [("expected_revision", .int 0)]

def sampleUser : User := ⟨1, "admin", "administrator"⟩

/-- The digest of the wrapper signed at the hundredth second. -/
def sampleDigest (_ : List UInt8) (_ : List Char) : String :=
  "2b1dec8ee73c96e9293592f4bea8c2850114edc6c2f750d70f0fc11befc1cbf4"

/-- The digest of the wrapper signed at second 9007199254740. -/
def lateDigest (_ : List UInt8) (_ : List Char) : String :=
  "6d4e0dcfd7f3c168b6c48e58222ac2be9a4f5702fc838c8ed85d9acbcd3553b8"

theorem admitted_passes_sampleApply :
    ∃ wrapper, wrapperOf wireFloats sampleDigest wireKey "robot-1" (.finite 100)
        (.obj sampleApply) (actorBlock sampleUser) = .ok wrapper ∧
      Bridge.wrapperReason wireFloats wrapper = none := by
  have hok : (wrapperOf wireFloats sampleDigest wireKey "robot-1" (.finite 100)
      (.obj sampleApply) (actorBlock sampleUser)).isOk = true := by decide +kernel
  have hshape : isDigest "2b1dec8ee73c96e9293592f4bea8c2850114edc6c2f750d70f0fc11befc1cbf4" =
      true := by decide +kernel
  have hvalid : failureCode (validateRequest [] (.obj sampleApply)) = none := by decide +kernel
  have hheld : Held wireFloats (.obj sampleApply) := by
    simp [sampleApply, sampleCommon, Held, HeldFields]
  obtain ⟨request, hrequest⟩ := failureCode_eq_none.mp hvalid
  cases hwrapper : wrapperOf wireFloats sampleDigest wireKey "robot-1" (.finite 100)
      (.obj sampleApply) (actorBlock sampleUser) with
  | error failure => simp [hwrapper, Except.isOk, Except.toBool] at hok
  | ok wrapper =>
    refine ⟨wrapper, rfl, (admitted_passes wireFloats sampleDigest wireKey (fun _ => hshape) []
      sampleApply request sampleUser (actorBlock sampleUser) wrapper "robot-1" (.finite 100)
      (by simp) hheld hrequest rfl ?_ ?_ hwrapper).2⟩
    · intro _
      refine ⟨rfl, ?_⟩
      intro issued hissued
      have hclock : clockMs (.finite 100) = .ok 100000 := by decide +kernel
      obtain rfl := Except.ok.inj (hclock.symm.trans hissued)
      decide
    · intro hread
      exact absurd (by decide +kernel) hread

/-- The server signs later than the bridge takes a lifetime for one, and hands
    over readings of an actor whose id cannot be written. -/
theorem not_admitted_passes :
    (failureCode (validateRequest [] (.obj sampleApply)) = none ∧
      failureCode (validateActor (actorBlock sampleUser)) = none ∧
      sampleUser.role = "administrator" ∧
      ((wrapperOf wireFloats lateDigest wireKey "robot-1" (.finite 9007199254740)
        (.obj sampleApply) (actorBlock sampleUser)).toOption.map
          (Bridge.wrapperReason wireFloats)) =
        some (some "The tuning authorization lifetime is invalid.")) ∧
    (failureCode (validateRequest [] (.obj (sampleCommon "read"))) = none ∧
      failureCode (validateActor (actorBlock { sampleUser with id := 10 ^ 4300 })) = none ∧
      ((wrapperOf wireFloats lateDigest wireKey "robot-1" (.finite 100)
        (.obj (sampleCommon "read"))
        (actorBlock { sampleUser with id := 10 ^ 4300 })).toOption.map
          (Bridge.wrapperReason wireFloats)) =
        some (some "The tuning envelope is not serializable.")) := by
  decide +kernel

end PatrolBot.Tuning
