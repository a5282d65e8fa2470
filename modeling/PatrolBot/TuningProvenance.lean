import PatrolBot.TuningMemory

/-!
# Where the policy of manual drive comes from

The mapping `teleop_policy` hands to manual drive is made of the last snapshot its
robot reported on the session and the websocket that are installed.  A snapshot
that passed the filter for replies leaves a mapping that `resolve_policy` accepts:
the caps are within the envelope, and the generation that is built from three
reported values is one the parser takes.
-/

namespace PatrolBot.Tuning

/-! ### The generation of a policy -/

/-- A character the parser takes in a generation, whatever stands next to it. -/
def plainMark (c : Char) : Prop := PatrolBot.generationAllowed c = true ∧ c ≠ '.'

theorem not_doubleDot {characters : List Char} (h : '.' ∉ characters) :
    hasDoubleDot characters = false := by
  induction characters with
  | nil => rfl
  | cons c characters ih =>
    have hc : c ≠ '.' := by
      rintro rfl
      exact h List.mem_cons_self
    have hrest : hasDoubleDot characters = false := ih fun hmem => h (List.mem_cons_of_mem _ hmem)
    rw [hasDoubleDot, hrest]
    rintro rest heq
    exact absurd heq hc

theorem validGeneration_of_plain {text : String} (hlength : text.length ≤ maxGenerationLength)
    (hplain : ∀ c ∈ text.toList, plainMark c)
    (halnum : ∃ c ∈ text.toList, PatrolBot.generationAlnum c = true) :
    PatrolBot.validGeneration (.str text) = some text := by
  obtain ⟨mark, hmark, hmarkAlnum⟩ := halnum
  have hlong : ¬(text.toList.length < 1 ∨ text.toList.length > maxPolicyGenerationLength) := by
    have hpos := List.length_pos_of_mem hmark
    rw [String.length_toList] at hpos ⊢
    simp only [maxGenerationLength, maxPolicyGenerationLength] at hlength ⊢
    omega
  have habsent : ∀ c, PatrolBot.generationAllowed c = false → text.toList.contains c = false := by
    intro c hc
    rw [List.contains_eq_any_beq, List.any_eq_false]
    rintro other hother heq
    rw [beq_iff_eq] at heq
    subst heq
    simp [(hplain c hother).1] at hc
  have hdots : hasDoubleDot text.toList = false := not_doubleDot fun hmem => (hplain _ hmem).2 rfl
  have hany : text.toList.any PatrolBot.generationAlnum = true :=
    List.any_eq_true.mpr ⟨mark, hmark, hmarkAlnum⟩
  have hall : text.toList.all PatrolBot.generationAllowed = true :=
    List.all_eq_true.mpr fun c hc => (hplain c hc).1
  simp only [PatrolBot.validGeneration, if_neg hlong, habsent '/' (by decide),
    habsent '\\' (by decide), hdots, hany, hall]
  rfl

theorem alnum_of_lowerHex {c : Char} (h : lowerHex c = true) :
    PatrolBot.generationAlnum c = true := by
  simp only [lowerHex, Bool.or_eq_true, Bool.and_eq_true, decide_eq_true_eq] at h
  simp only [PatrolBot.generationAlnum, Bool.or_eq_true, Bool.and_eq_true, decide_eq_true_eq]
  rcases h with hdigit | ⟨hlow, hhigh⟩
  · exact Or.inr hdigit
  · exact Or.inl (Or.inl ⟨hlow, le_trans hhigh (by decide)⟩)

theorem plain_of_alnum {c : Char} (h : PatrolBot.generationAlnum c = true) : plainMark c := by
  constructor
  · simp [PatrolBot.generationAllowed, h]
  · rintro rfl
    exact absurd h (by decide)

theorem plain_of_uuid {id : String} (h : uuidShape id.toList = true) :
    id.length = 36 ∧ ∀ c ∈ id.toList, plainMark c := by
  simp only [uuidShape, Bool.and_eq_true, decide_eq_true_eq, List.all_eq_true] at h
  obtain ⟨hlength, hcharacters⟩ := h
  constructor
  · rw [← String.length_toList]
    exact hlength
  · intro c hc
    obtain ⟨i, hi, rfl⟩ := List.getElem_of_mem hc
    have hshape := hcharacters (id.toList[i], i)
      (List.mem_iff_getElem.mpr ⟨i, by simpa using hi, by simp⟩)
    dsimp only at hshape
    split at hshape
    · rw [beq_iff_eq] at hshape
      rw [hshape]
      exact ⟨by decide, by decide⟩
    · exact plain_of_alnum (alnum_of_lowerHex hshape)

/-- A revision that is reported shows as at most sixteen digits, or as `None`. -/
theorem plain_of_revision {repr : Json → String} {revision : Json}
    (h : isNull revision = true ∨ isRevision revision = true) :
    (revision.shown repr).length ≤ 16 ∧ ∀ c ∈ (revision.shown repr).toList, plainMark c := by
  cases revision with
  | null =>
    have hshown : (Json.shown repr .null).toList = ['N', 'o', 'n', 'e'] := by
      rw [Json.shown]
      decide
    constructor
    · rw [← String.length_toList, hshown]
      decide
    · intro c hnone
      rw [hshown] at hnone
      simp only [List.mem_cons, List.not_mem_nil, or_false] at hnone
      rcases hnone with rfl | rfl | rfl | rfl <;> exact plain_of_alnum (by decide)
  | int n =>
    simp only [isNull, isRevision, strictInt, Option.any_some, Bool.and_eq_true,
      decide_eq_true_eq, Bool.false_eq_true, false_or, jsSafeInt] at h
    obtain ⟨m, rfl⟩ := Int.eq_ofNat_of_zero_le h.1
    have hm : (m : Int) ≤ 9007199254740991 := of_decide_eq_true h.2
    have hshown : (Json.shown repr (.int (m : Int))).toList = Nat.toDigits 10 m := by
      exact Nat.toList_repr
    constructor
    · rw [← String.length_toList, hshown]
      refine (Nat.length_toDigits_le_iff (by decide) (by decide)).mpr ?_
      omega
    · intro c hc
      rw [hshown] at hc
      have hdigit : c.isDigit = true :=
        @Nat.isDigit_of_mem_toDigits 10 m c (by decide) (by decide) hc
      refine plain_of_alnum ?_
      simp only [Char.isDigit, Bool.and_eq_true, decide_eq_true_eq] at hdigit
      simp only [PatrolBot.generationAlnum, Bool.or_eq_true, Bool.and_eq_true, decide_eq_true_eq]
      exact Or.inr hdigit
  | _ => simp [isNull, isRevision, strictInt] at h

/-- The server's own spelling of a generation is one its parser takes. -/
theorem validGeneration_shown {repr : Json → String} {session revision : Json} {digest : String}
    (hsession : IsUuid session) (hrevision : isNull revision = true ∨ isRevision revision = true)
    (hdigest : isDigest digest = true) :
    PatrolBot.validGeneration (.str (session.shown repr ++ ":" ++ revision.shown repr ++ ":" ++
        digest)) =
      some (session.shown repr ++ ":" ++ revision.shown repr ++ ":" ++ digest) := by
  obtain ⟨id, rfl, hid⟩ := hsession
  obtain ⟨hidLength, hidPlain⟩ := plain_of_uuid hid
  obtain ⟨hrevisionLength, hrevisionPlain⟩ := @plain_of_revision repr revision hrevision
  simp only [isDigest, Bool.and_eq_true, decide_eq_true_eq, List.all_eq_true] at hdigest
  obtain ⟨hdigestLength, hdigestHex⟩ := hdigest
  have hcolon : plainMark ':' := ⟨by decide, by decide⟩
  refine validGeneration_of_plain ?_ ?_ ?_
  · have hone : (":" : String).length = 1 := rfl
    have hshown : (Json.shown repr (.str id)).length = 36 := hidLength
    simp only [String.length_append, hone, hshown, hdigestLength, maxGenerationLength]
    omega
  · intro c hc
    have hsplit : c ∈ id.toList ∨ c = ':' ∨ c ∈ (revision.shown repr).toList ∨
        c ∈ digest.toList := by
      simp only [String.toList_append, List.mem_append, Json.shown] at hc
      have hmark : ∀ {c : Char}, c ∈ (":" : String).toList → c = ':' := by
        intro c hc
        simpa using hc
      rcases hc with (((hc | hc) | hc) | hc) | hc
      · exact Or.inl hc
      · exact Or.inr (Or.inl (hmark hc))
      · exact Or.inr (Or.inr (Or.inl hc))
      · exact Or.inr (Or.inl (hmark hc))
      · exact Or.inr (Or.inr (Or.inr hc))
    rcases hsplit with hmem | rfl | hmem | hmem
    · exact hidPlain c hmem
    · exact hcolon
    · exact hrevisionPlain c hmem
    · exact plain_of_alnum (alnum_of_lowerHex (hdigestHex c hmem))
  · have hpos : 0 < digest.toList.length := by
      rw [String.length_toList, hdigestLength]
      decide
    refine ⟨digest.toList[0], ?_, alnum_of_lowerHex (hdigestHex _ (List.getElem_mem hpos))⟩
    rw [String.toList_append]
    exact List.mem_append_right _ (List.getElem_mem hpos)

/-! ### What the filter leaves of a snapshot -/

/-- What is known of a snapshot with effective caps that passed the filter. -/
structure Vouched (snapshot limits : List (String × Json)) (digest : String) : Prop where
  known : (Json.get snapshot "active_known").isTrue = true
  session : IsUuid (Json.get snapshot "session_id")
  revision : isNull (Json.get snapshot "active_revision") = true ∨
    isRevision (Json.get snapshot "active_revision") = true
  exact : Json.hasExactly limits (hardCaps.map Prod.fst) = true
  linear : isCap (Json.get limits "max_linear_m_s") (3 / 10) = true
  angular : isCap (Json.get limits "max_angular_rad_s") (7 / 10) = true
  digest : isDigest (digestHex digest) = true

section

variable {registry : Registry} {snapshot limits : List (String × Json)} {digest : String}

theorem caps_of_check (h : checkEffectiveLimits snapshot = .ok ())
    (hlimits : entries (Json.get snapshot "effective_limits") = some limits) :
    (Json.get snapshot "active_known").isTrue = true ∧
      Json.hasExactly limits (hardCaps.map Prod.fst) = true ∧
      isCap (Json.get limits "max_linear_m_s") (3 / 10) = true ∧
      isCap (Json.get limits "max_angular_rad_s") (7 / 10) = true := by
  unfold checkEffectiveLimits at h
  split at h
  · rename_i hnull
    rw [hnull] at hlimits
    cases hlimits
  · obtain ⟨_, hknown, h⟩ := bind_eq_ok.mp h
    simp only [hlimits] at h
    obtain ⟨_, hexact, h⟩ := bind_eq_ok.mp h
    obtain ⟨_, hlinear, hangular⟩ := bind_eq_ok.mp h
    exact ⟨require_eq_ok.mp hknown, require_eq_ok.mp hexact, require_eq_ok.mp hlinear,
      require_eq_ok.mp hangular⟩

/-- A session that is active is an initialized one. -/
theorem session_of_checks {active : List (String × Json)}
    (hrevisions : checkRevisions snapshot = .ok ())
    (hactivity : checkActivity snapshot active = .ok ())
    (hknown : (Json.get snapshot "active_known").isTrue = true) :
    IsUuid (Json.get snapshot "session_id") ∧
      (isNull (Json.get snapshot "active_revision") = true ∨
        isRevision (Json.get snapshot "active_revision") = true) := by
  obtain ⟨_, hsession, hrevisions⟩ := bind_eq_ok.mp hrevisions
  obtain ⟨_, -, hactive⟩ := bind_eq_ok.mp hrevisions
  obtain ⟨_, -, hclaims⟩ := bind_eq_ok.mp hactivity
  rw [require_eq_ok] at hsession hactive hclaims
  refine ⟨?_, hactive⟩
  rcases hsession with hnone | hsession
  · exact absurd (Or.inl hknown) (hclaims hnone)
  · exact isUuid_of_isSome hsession

theorem digest_of_check (h : checkTail snapshot = .ok ())
    (hdigest : asText (Json.get snapshot "digest") = some digest) :
    isDigest (digestHex digest) = true := by
  obtain ⟨_, -, h⟩ := bind_eq_ok.mp h
  obtain ⟨_, -, h⟩ := bind_eq_ok.mp h
  obtain ⟨_, hdigests, -⟩ := bind_eq_ok.mp h
  rcases require_eq_ok.mp hdigests with hnull | hshape
  · cases hvalue : Json.get snapshot "digest" with
    | str text => simp [hvalue, isNull] at hnull
    | _ => simp [hvalue, asText] at hdigest
  · rw [hdigest, Option.any_some] at hshape
    exact hshape

theorem vouched_of_validate {reported : Json}
    (h : validateSnapshot registry reported = .ok snapshot)
    (hlimits : entries (Json.get snapshot "effective_limits") = some limits)
    (hdigest : asText (Json.get snapshot "digest") = some digest) :
    Vouched snapshot limits digest := by
  unfold validateSnapshot at h
  split at h
  · cases h
  · rename_i fields hfields
    obtain ⟨_, -, h⟩ := bind_eq_ok.mp h
    obtain ⟨_, -, h⟩ := bind_eq_ok.mp h
    obtain ⟨_, -, h⟩ := bind_eq_ok.mp h
    obtain ⟨_, hrevisions, h⟩ := bind_eq_ok.mp h
    obtain ⟨_, -, h⟩ := bind_eq_ok.mp h
    obtain ⟨_, -, h⟩ := bind_eq_ok.mp h
    obtain ⟨active, -, h⟩ := bind_eq_ok.mp h
    obtain ⟨_, hactivity, h⟩ := bind_eq_ok.mp h
    obtain ⟨_, hcaps, h⟩ := bind_eq_ok.mp h
    obtain ⟨_, -, h⟩ := bind_eq_ok.mp h
    obtain ⟨_, htail, h⟩ := bind_eq_ok.mp h
    cases h
    obtain ⟨hknown, hexact, hlinear, hangular⟩ := caps_of_check hcaps hlimits
    obtain ⟨hsession, hrevision⟩ := session_of_checks hrevisions hactivity hknown
    exact ⟨hknown, hsession, hrevision, hexact, hlinear, hangular, digest_of_check htail hdigest⟩

/-- The snapshot of a validated reply has passed the filter. -/
theorem snapshot_of_response {payload : Json} {reply : TuningResponse}
    (h : validateResponse registry payload = .ok reply)
    (hsnapshot : reply.snapshot = some snapshot) :
    ∃ reported, validateSnapshot registry reported = .ok snapshot := by
  unfold validateResponse at h
  split at h
  · cases h
  · rename_i fields hfields
    obtain ⟨_, -, h⟩ := bind_eq_ok.mp h
    split at h
    · cases h
    · split at h
      · cases h
      · split at h
        · cases h
        · obtain ⟨made, hmade, h⟩ := bind_eq_ok.mp h
          obtain ⟨job, -, h⟩ := bind_eq_ok.mp h
          cases h
          dsimp only at hsnapshot
          subst hsnapshot
          unfold replySnapshot at hmade
          split at hmade
          · cases hmade
          · obtain ⟨checked, hchecked, hmade⟩ := bind_eq_ok.mp hmade
            cases hmade
            exact ⟨_, hchecked⟩

end

/-! ### What the parser makes of the mapping -/

theorem mem_keys_insertAt {key : String} {value : Json} {fields : List (String × Json)} :
    ∀ other, (Json.lookup other (insertAt key value fields)).isSome = true ↔
      other = key ∨ (Json.lookup other fields).isSome = true := by
  intro other
  rw [lookup_eq, lookup_eq]
  by_cases h : other = key
  · subst h
    simp
  · simp [lookup_insertAt_ne h, h]

theorem hasExactly_insertAt {key : String} {value : Json} {fields : List (String × Json)}
    {keys : List String} (h : Json.hasExactly fields keys = true) :
    Json.hasExactly (insertAt key value fields) (keys ++ [key]) = true := by
  simp only [Json.hasExactly, Bool.and_eq_true, List.all_eq_true, List.contains_iff_mem] at h ⊢
  obtain ⟨hknown, hthere⟩ := h
  constructor
  · intro field hfield
    rcases mem_insertAt hfield with rfl | hold
    · exact List.mem_append_right _ List.mem_cons_self
    · exact List.mem_append_left _ (hknown field hold)
  · intro other hother
    rw [mem_keys_insertAt]
    rcases List.mem_append.mp hother with hold | hnew
    · exact Or.inr (hthere other hold)
    · exact Or.inl (List.mem_singleton.mp hnew)

/-- A cap that was reported is one the parser takes. -/
theorem finiteNumber_of_isCap {value : Json} {hard : ℚ} (hhard : hard ≤ 1)
    (h : isCap value hard = true) :
    ∃ number, PatrolBot.finiteNumber value = some number ∧ 0 ≤ number ∧ number ≤ hard := by
  unfold isCap at h
  cases hvalue : finiteValue value with
  | none => simp [hvalue] at h
  | some number =>
    rw [hvalue, Option.any_some, Bool.and_eq_true, decide_eq_true_eq, decide_eq_true_eq] at h
    refine ⟨number, ?_, h⟩
    cases value with
    | int n =>
      simp only [finiteValue] at hvalue
      split at hvalue
      · obtain rfl := Option.some.inj hvalue
        have hlow : (0 : Int) ≤ n := by exact_mod_cast h.1
        have hhigh : n ≤ 1 := by exact_mod_cast le_trans h.2 hhard
        exact floatOfInt_of_small (by omega)
      · cases hvalue
    | float value =>
      cases value with
      | finite q => exact hvalue
      | _ => simp [finiteValue] at hvalue
    | _ => simp [finiteValue] at hvalue

section

variable {settings : BrokerSettings} {snapshot limits fields : List (String × Json)}
variable {digest : String} {received now : ℚ} {base : Int}

/-- The mapping `dict(limits, generation=…, received_mono=…, robot_generation=…)`. -/
structure Assembled (repr : Json → String) (snapshot limits : List (String × Json))
    (digest : String) (received : ℚ) (base : Int) (fields : List (String × Json)) : Prop where
  bound : Json.get fields "robot_generation" = .int base
  receipt : Json.get fields "received_mono" = .float (.finite received)
  generation : Json.get fields "generation" = .str ((Json.get snapshot "session_id").shown repr ++
    ":" ++ (Json.get snapshot "active_revision").shown repr ++ ":" ++ digestHex digest)
  linear : Json.get fields "max_linear_m_s" = Json.get limits "max_linear_m_s"
  angular : Json.get fields "max_angular_rad_s" = Json.get limits "max_angular_rad_s"
  exact : Json.hasExactly limits (hardCaps.map Prod.fst) = true →
    Json.hasExactly fields requiredFields = true

theorem assembled_policyFields
    (h : Broker.policyFields settings snapshot limits digest received base = some fields) :
    Assembled settings.repr snapshot limits digest received base fields := by
  unfold Broker.policyFields at h
  split at h
  · rename_i session revision hsession hrevision
    rw [← get_of_lookup hsession, ← get_of_lookup hrevision] at h
    obtain rfl := Option.some.inj h
    constructor
    · rw [get_insertAt_self]
    · rw [get_insertAt_ne (by decide), get_insertAt_self]
    · rw [get_insertAt_ne (by decide), get_insertAt_ne (by decide), get_insertAt_self]
    · rw [get_insertAt_ne (by decide), get_insertAt_ne (by decide), get_insertAt_ne (by decide)]
    · rw [get_insertAt_ne (by decide), get_insertAt_ne (by decide), get_insertAt_ne (by decide)]
    · intro hexact
      exact hasExactly_insertAt (hasExactly_insertAt (hasExactly_insertAt hexact))
  · cases h

/-- The mapping made of a snapshot that passed the filter fits, whoever asks and
    as long as it is fresh. -/
theorem resolve_of_vouched (h : Vouched snapshot limits digest)
    (hfields : Assembled settings.repr snapshot limits digest received base fields)
    (hbase : 0 ≤ base) (hfuture : received ≤ now + policyFutureTolerance)
    (hage : now - received ≤ policyMaxAge) (capabilities : List String) :
    ∃ policy, resolvePolicy capabilities (.policy fields) now (some base) = .ok policy ∧
      policy.maxLinear ≤ 3 / 10 ∧ policy.maxAngular ≤ 7 / 10 := by
  unfold resolvePolicy
  by_cases hneeded : capabilityRequiresPolicy capabilities = true
  · obtain ⟨linear, hlinear, hlinearLow, hlinearHigh⟩ :=
      finiteNumber_of_isCap (by norm_num) h.linear
    obtain ⟨angular, hangular, hangularLow, hangularHigh⟩ :=
      finiteNumber_of_isCap (by norm_num) h.angular
    have hfits : Fits fields now linear angular received
        ((Json.get snapshot "session_id").shown settings.repr ++ ":" ++
          (Json.get snapshot "active_revision").shown settings.repr ++ ":" ++
            digestHex digest) := by
      constructor
      · rw [hfields.linear, hlinear]
      · exact not_or.mpr ⟨not_lt.mpr hlinearLow, not_lt.mpr hlinearHigh⟩
      · rw [hfields.angular, hangular]
      · exact not_or.mpr ⟨not_lt.mpr hangularLow, not_lt.mpr hangularHigh⟩
      · rw [hfields.generation, validGeneration_shown h.session h.revision h.digest]
      · rw [hfields.receipt]
        rfl
      · exact not_lt.mpr hfuture
      · exact not_lt.mpr hage
    have hbound : sessionBinding (Json.get fields "robot_generation") = some base := by
      rw [hfields.bound]
      exact if_neg (not_lt.mpr hbase)
    have hparsed := @parsePolicy_of_exact fields now (hfields.exact h.exact)
    rw [validatePolicyFields_eq_ok.mpr ⟨linear, angular, received, _, base, hfits, hbound, rfl⟩]
      at hparsed
    rw [if_neg (not_not.mpr hneeded)]
    simp only [hparsed]
    exact ⟨_, if_neg (not_not.mpr rfl), hlinearHigh, hangularHigh⟩
  · rw [if_pos hneeded]
    exact ⟨_, rfl, le_refl _, le_refl _⟩

end

namespace Broker

/-! ### What a step does to the cache -/

/-- A reply whose snapshot is cached. -/
def Caches (reply : TuningResponse) : Prop :=
  reply.outcome = "ok" ∧ reply.snapshot.isSome = true

section

variable {settings : BrokerSettings} {b next : Broker} {event : BrokerEvent}

/-- Nothing is cached, and the sessions stay those of their robots. -/
structure Keeps (b next : Broker) : Prop where
  policies : next.policies.Sublist b.policies
  sessions : ∀ (session : Nat) (held : RobotSession), b.sessions[session]? = some held →
    ∃ later : RobotSession, next.sessions[session]? = some later ∧ later.robotId = held.robotId

theorem keeps_of_eq (hpolicies : next.policies = b.policies)
    (hsessions : next.sessions = b.sessions) : Keeps b next := by
  constructor
  · rw [hpolicies]
  · intro session held hheld
    exact ⟨held, hsessions ▸ hheld, rfl⟩

theorem keeps_request {user : User} {robotId : String} {payload : Json} {answers : RequestAnswers} :
    Keeps b (b.request settings user robotId payload answers).1 := by
  have hmove := @requestMove_request settings b user robotId payload answers
  generalize b.request settings user robotId payload answers = moved at hmove
  cases hmove with
  | refused seen failure => exact keeps_of_eq rfl rfl
  | dispatched seen entry wrapper answers hcall hfuture hfresh hroom hlock =>
    obtain ⟨seen', next, rfl, hsent | hbounced⟩ :=
      @dispatch_cases settings b answers entry wrapper seen
    · rw [hsent]
      exact keeps_of_eq rfl rfl
    · rw [hbounced]
      exact keeps_of_eq rfl rfl

theorem keeps_disconnected (session : Nat) : Keeps b (b.disconnected session) :=
  ⟨List.filter_sublist, fun _ held hheld => ⟨held, hheld, rfl⟩⟩

theorem Keeps.trans {between : Broker} (h : Keeps b between) (h' : Keeps between next) :
    Keeps b next := by
  refine ⟨h'.policies.trans h.policies, ?_⟩
  intro session held hheld
  obtain ⟨middle, hmiddle, hsame⟩ := h.sessions session held hheld
  obtain ⟨later, hlater, hrobot⟩ := h'.sessions session middle hmiddle
  exact ⟨later, hlater, hrobot.trans hsame⟩

/-- A session is added behind the others. -/
theorem keeps_append {added : RobotSession} (hpolicies : next.policies = b.policies)
    (hsessions : next.sessions = b.sessions ++ [added]) : Keeps b next := by
  constructor
  · rw [hpolicies]
  · intro session held hheld
    refine ⟨held, ?_, rfl⟩
    rw [hsessions, List.getElem?_append_left (List.getElem?_eq_some_iff.mp hheld).1, hheld]

theorem keeps_connect (robotId : String) : Keeps b (b.connect robotId) := by
  unfold connect
  dsimp only
  split
  · exact (keeps_disconnected _).trans (keeps_of_eq rfl rfl)
  · have hadded : Keeps b { b with
        sessions := b.sessions ++ [⟨robotId, none, 0⟩]
        robots := insertAt robotId b.sessions.length b.robots } := keeps_append rfl rfl
    exact (hadded.trans (keeps_disconnected _)).trans (keeps_of_eq rfl rfl)

theorem keeps_leftSession (session : Nat) : Keeps b (b.leftSession session) := by
  unfold leftSession
  split
  · have hlost : Keeps b { b with
        leaving := b.leaving.filter fun other => other != session
        sessions := b.sessions.modify session fun held => { held with websocket := none } } := by
      refine ⟨List.Sublist.refl _, ?_⟩
      intro other held hheld
      simp only [List.getElem?_modify, hheld]
      refine ⟨_, rfl, ?_⟩
      split <;> rfl
    exact hlost.trans (keeps_disconnected session)
  · exact keeps_of_eq rfl rfl

theorem keeps_step (h : ∀ session robot payload stored pruned received,
      event ≠ .response session robot payload stored pruned received) :
    Keeps b (b.step settings event).1 := by
  cases event with
  | request user robotId payload answers => exact keeps_request
  | response session robot payload stored pruned received => exact absurd rfl (h _ _ _ _ _ _)
  | sendDone call raised =>
    simp only [step, sendDone]
    split
    · exact keeps_of_eq rfl rfl
    · split
      · exact keeps_of_eq rfl rfl
      · split <;> exact keeps_of_eq rfl rfl
  | resumed call =>
    simp only [step, resumed]
    split
    · exact keeps_of_eq rfl rfl
    · rename_i entry htask
      split
      · exact keeps_of_eq rfl rfl
      · exact keeps_of_eq rfl rfl
      · rename_i response hfuture
        split
        · exact keeps_of_eq rfl rfl
        · obtain ⟨desired, hdesired⟩ := @updateDesired_frame b entry response.snapshot
          rw [hdesired]
          exact keeps_of_eq rfl rfl
  | timedOut call =>
    simp only [step, timedOut]
    split <;> exact keeps_of_eq rfl rfl
  | connecting robotId => exact keeps_connect robotId
  | installed connection =>
    simp only [step, installed]
    split
    · exact keeps_of_eq rfl rfl
    · exact keeps_append rfl rfl
  | leaving session connection =>
    simp only [step, leave]
    split
    · exact keeps_of_eq rfl rfl
    · split <;> exact keeps_of_eq rfl rfl
  | left session => exact keeps_leftSession session
  | reported robotId view => exact keeps_of_eq rfl rfl

theorem deliver_frame {session : Nat} {envelopeRobot : String} {reply : TuningResponse}
    {stored pruned : ℚ} :
    (b.deliver settings session envelopeRobot reply stored pruned).policies = b.policies ∧
      (b.deliver settings session envelopeRobot reply stored pruned).sessions = b.sessions := by
  unfold deliver
  split
  · exact ⟨rfl, rfl⟩
  · rename_i entry hentry
    split
    · exact ⟨rfl, rfl⟩
    · dsimp only
      split
      · obtain ⟨seen, hseen⟩ := @remember_frame settings b entry.requestId stored pruned
        rw [hseen]
        exact ⟨rfl, rfl⟩
      · exact ⟨rfl, rfl⟩

/-- The reply of the session is cached, with its snapshot and its time. -/
structure Cached (settings : BrokerSettings) (b : Broker) (event : BrokerEvent)
    (result : Broker × List BrokerEmit) (cached : CachedPolicy) (robotId : String) : Prop where
  reply : ∃ registry robot payload stored pruned held reply,
    event = .response cached.session robot payload stored pruned cached.received ∧
    settings.catalog = some registry ∧ validateResponse registry payload = .ok reply ∧
    reply.outcome = "ok" ∧ reply.snapshot = some cached.snapshot ∧
    b.sessions[cached.session]? = some held ∧ held.robotId = robotId ∧
    held.websocket = some cached.websocket ∧
    result.2 = [.received cached.session held.generation cached.websocket reply cached.received]
  policies : result.1.policies = insertAt robotId cached b.policies
  sessions : result.1.sessions = b.sessions

/-- A step caches the reply it receives, or takes nothing into the cache and
    receives nothing that would belong there. -/
theorem cached_or_keeps :
    (∃ cached robotId, Cached settings b event (b.step settings event) cached robotId) ∨
      Keeps b (b.step settings event).1 ∧ ∀ session generation websocket reply at',
        .received session generation websocket reply at' ∈ (b.step settings event).2 →
          ¬Caches reply := by
  by_cases hresponse : ∃ session robot payload stored pruned received,
      event = .response session robot payload stored pruned received
  · obtain ⟨session, robot, payload, stored, pruned, received, rfl⟩ := hresponse
    simp only [step]
    unfold handleResponse
    split
    · exact Or.inr ⟨keeps_of_eq rfl rfl, by simp⟩
    · rename_i held hheld
      split
      · exact Or.inr ⟨keeps_of_eq rfl rfl, by simp⟩
      · rename_i websocket hwebsocket
        split
        · exact Or.inr ⟨keeps_of_eq rfl rfl, by simp⟩
        · split
          · exact Or.inr ⟨keeps_of_eq rfl rfl, by simp⟩
          · exact Or.inr ⟨keeps_of_eq rfl rfl, by simp⟩
          · rename_i data registry hdata hregistry
            split
            · unfold rejectReply
              split
              · exact Or.inr ⟨keeps_of_eq rfl rfl, by simp⟩
              · split
                · exact Or.inr ⟨keeps_of_eq rfl rfl, by simp⟩
                · exact Or.inr ⟨keeps_of_eq rfl rfl, by simp⟩
            · rename_i reply hreply
              split
              · exact Or.inr ⟨keeps_of_eq rfl rfl, by simp⟩
              · have hframe := @deliver_frame settings
                  (b.cachePolicy held.robotId session websocket reply received) session robot reply
                  stored pruned
                by_cases hcaches : Caches reply
                · obtain ⟨hok, hsnapshot⟩ := hcaches
                  obtain ⟨snapshot, hsnapshot⟩ := Option.isSome_iff_exists.mp hsnapshot
                  have hcached : b.cachePolicy held.robotId session websocket reply received =
                      { b with
                        policies := insertAt held.robotId ⟨session, websocket, snapshot, received⟩
                          b.policies } := by
                    simp only [cachePolicy, hsnapshot, if_pos hok]
                  rw [hcached] at hframe ⊢
                  exact Or.inl ⟨⟨session, websocket, snapshot, received⟩, held.robotId,
                    ⟨registry, robot, payload, stored, pruned, held, reply, rfl, hregistry, hreply,
                      hok, hsnapshot, hheld, rfl, hwebsocket, rfl⟩, hframe.1, hframe.2⟩
                · have hkept : b.cachePolicy held.robotId session websocket reply received = b := by
                    unfold cachePolicy
                    split
                    · rfl
                    · rename_i snapshot hsnapshot
                      exact if_neg fun hok => hcaches ⟨hok, Option.isSome_of_eq_some hsnapshot⟩
                  rw [hkept] at hframe ⊢
                  refine Or.inr ⟨keeps_of_eq hframe.1 hframe.2, ?_⟩
                  intro source generation socket other at' hmem
                  cases List.mem_singleton.mp hmem
                  exact hcaches
  · refine Or.inr ⟨keeps_step ?_, ?_⟩
    · intro session robot payload stored pruned received hevent
      exact hresponse ⟨session, robot, payload, stored, pruned, received, hevent⟩
    · intro session generation websocket reply at' hmem
      obtain ⟨registry, robot, payload, stored, pruned, held, hevent, -⟩ := received_of_step hmem
      exact absurd ⟨session, robot, payload, stored, pruned, at', hevent⟩ hresponse

end

/-! ### Every run -/

/-- What is cached is the snapshot of the last `ok` reply that came with one on the
    session and the websocket, received at that time. -/
def Latest (settings : BrokerSettings) (history : List (BrokerEvent × List BrokerEmit))
    (cached : CachedPolicy) : Prop :=
  ∃ earlier later registry robot payload stored pruned generation reply,
    history = earlier ++ (.response cached.session robot payload stored pruned cached.received,
      [.received cached.session generation cached.websocket reply cached.received]) :: later ∧
    settings.catalog = some registry ∧ validateResponse registry payload = .ok reply ∧
    reply.outcome = "ok" ∧ reply.snapshot = some cached.snapshot ∧
    ∀ generation websocket reply at',
      .received cached.session generation websocket reply at' ∈ emitted later → ¬Caches reply

/-- The cache holds, for a robot, the latest snapshot of one of its sessions. -/
structure Remembered (settings : BrokerSettings)
    (history : List (BrokerEvent × List BrokerEmit)) (b : Broker) : Prop where
  keys : (b.policies.map Prod.fst).Nodup
  entries : ∀ entry ∈ b.policies, Latest settings history entry.2 ∧
    ∃ held : RobotSession, b.sessions[entry.2.session]? = some held ∧ held.robotId = entry.1

section

variable {settings : BrokerSettings} {b : Broker} {event : BrokerEvent}
variable {history : List (BrokerEvent × List BrokerEmit)} {emits : List BrokerEmit}

theorem latest_concat {cached : CachedPolicy} (h : Latest settings history cached)
    (hemits : ∀ generation websocket reply at',
      .received cached.session generation websocket reply at' ∈ emits → ¬Caches reply) :
    Latest settings (history ++ [(event, emits)]) cached := by
  obtain ⟨earlier, later, registry, robot, payload, stored, pruned, generation, reply, rfl,
    hregistry, hreply, hok, hsnapshot, hlater⟩ := h
  refine ⟨earlier, later ++ [(event, emits)], registry, robot, payload, stored, pruned, generation,
    reply, by simp, hregistry, hreply, hok, hsnapshot, ?_⟩
  intro generation websocket reply at' hmem
  rw [emitted_concat] at hmem
  rcases List.mem_append.mp hmem with hold | hnew
  · exact hlater generation websocket reply at' hold
  · exact hemits generation websocket reply at' hnew

theorem remembered_step (h : Remembered settings history b) (event : BrokerEvent) :
    Remembered settings (history ++ [(event, (b.step settings event).2)])
      (b.step settings event).1 := by
  rcases @cached_or_keeps settings b event with ⟨cached, robotId, hcached⟩ | ⟨hkeeps, hemits⟩
  · obtain ⟨registry, robot, payload, stored, pruned, held, reply, hevent, hregistry, hreply, hok,
      hsnapshot, hheld, hrobot, hwebsocket, hreceived⟩ := hcached.reply
    constructor
    · rw [hcached.policies]
      exact nodup_insertAt h.keys
    · intro entry hentry
      rw [hcached.policies] at hentry
      rw [hcached.sessions]
      have hmem : (robotId, cached) ∈ insertAt robotId cached b.policies :=
        mem_of_lookup lookup_insertAt_self
      by_cases hname : entry.1 = robotId
      · obtain rfl : entry = (robotId, cached) :=
          List.inj_on_of_nodup_map (nodup_insertAt h.keys) hentry hmem hname
        refine ⟨⟨history, [], registry, robot, payload, stored, pruned, held.generation, reply,
          ?_, hregistry, hreply, hok, hsnapshot, ?_⟩, held, hheld, hrobot⟩
        · rw [hreceived, hevent]
        · intro generation websocket reply at' hmem
          exact absurd hmem List.not_mem_nil
      · rcases mem_insertAt hentry with rfl | hold
        · exact absurd rfl hname
        · obtain ⟨hlatest, other, hother, hotherName⟩ := h.entries entry hold
          refine ⟨latest_concat hlatest ?_, other, hother, hotherName⟩
          -- The entry is another robot's, and a session has one robot.
          intro generation websocket reply' at' hmem
          rw [hreceived, List.mem_singleton] at hmem
          have hsession : entry.2.session = cached.session := (BrokerEmit.received.inj hmem).1
          rw [hsession, hheld] at hother
          obtain rfl := Option.some.inj hother
          exact absurd (hotherName.symm.trans hrobot) hname
  · constructor
    · exact h.keys.sublist (hkeeps.policies.map _)
    · intro entry hentry
      obtain ⟨hlatest, held, hheld, hname⟩ := h.entries entry (hkeeps.policies.mem hentry)
      refine ⟨latest_concat hlatest fun generation websocket reply at' hmem =>
        hemits _ generation websocket reply at' hmem, ?_⟩
      obtain ⟨later, hlater, hrobot⟩ := hkeeps.sessions _ held hheld
      exact ⟨later, hlater, hrobot.trans hname⟩

theorem remembered_history (events : List BrokerEvent) :
    Remembered settings ((tuningBroker settings).trace {} events)
      ((tuningBroker settings).run {} events) := by
  apply (tuningBroker settings).history_invariant (Remembered settings) ?_ ?_
    ((tuningBroker settings).along_true {} events)
  · intro history b event _ h
    exact remembered_step h event
  · constructor
    · exact List.nodup_nil
    · intro entry hentry
      cases hentry

theorem bound_eq_true {session generation websocket : Nat} {held : RobotSession}
    (hheld : b.sessions[session]? = some held) (h : b.bound session generation websocket = true) :
    b.robots.lookup held.robotId = some session ∧ held.websocket = some websocket := by
  simp only [bound, hheld, Bool.and_eq_true, beq_iff_eq] at h
  exact h.1

/-- A policy is made of a cached snapshot of the session that is installed. -/
theorem teleopPolicy_eq_policy {robotId : String} {fields : List (String × Json)}
    (h : b.teleopPolicy settings robotId = .policy fields) :
    ∃ cached held limits base digest, (robotId, cached) ∈ b.policies ∧
      b.sessions[cached.session]? = some held ∧
      b.bound cached.session held.generation cached.websocket = true ∧
      entries (Json.get cached.snapshot "effective_limits") = some limits ∧
      (b.view held.robotId).baseGeneration = some base ∧
      asText (Json.get cached.snapshot "digest") = some digest ∧
      Json.equal (Json.get cached.snapshot "hardware_session_generation") (.int base) = true ∧
      policyFields settings cached.snapshot limits digest cached.received base = some fields := by
  unfold teleopPolicy at h
  split at h
  · cases h
  · rename_i cached hcached
    have hmem : (robotId, cached) ∈ b.policies := mem_of_lookup hcached
    split at h
    · cases h
    · rename_i held hheld
      split at h
      · cases h
      · rename_i hinstalled
        simp only [not_or, Bool.not_eq_false] at hinstalled
        split at h
        · rename_i limits base digest hlimits hbase hdigest
          split at h
          · cases h
          · rename_i hequal
            split at h
            · rename_i made hmade
              obtain rfl := Provided.policy.inj h
              exact ⟨cached, held, limits, base, digest, hmem, hheld, hinstalled.1, hlimits, hbase,
                hdigest, by simpa using hequal, hmade⟩
            · cases h
        · cases h

end

end Broker

open Broker

/-- In every run the policy of a robot is made of the last `ok` reply with a snapshot
    that came on the session and the websocket installed for it: the snapshot
    claims an active configuration, of the drive base that is reported now, and the
    receipt is that reply's.  While it is fresh `resolve_policy` accepts it, within
    the commissioned envelope. -/
theorem policy_run (settings : BrokerSettings) (events : List BrokerEvent) (robotId : String)
    (fields : List (String × Json))
    (h : ((tuningBroker settings).run {} events).teleopPolicy settings robotId = .policy fields) :
    let broker := (tuningBroker settings).run {} events
    ∃ cached held base limits digest,
      Latest settings ((tuningBroker settings).trace {} events) cached ∧
      broker.robots.lookup robotId = some cached.session ∧
      broker.sessions[cached.session]? = some held ∧ held.websocket = some cached.websocket ∧
      (Json.get cached.snapshot "active_known").isTrue = true ∧
      (broker.view robotId).baseGeneration = some base ∧
      Json.equal (Json.get cached.snapshot "hardware_session_generation") (.int base) = true ∧
      Json.get cached.snapshot "effective_limits" = .obj limits ∧
      Json.get cached.snapshot "digest" = .str digest ∧
      Assembled settings.repr cached.snapshot limits digest cached.received base fields ∧
      ∀ capabilities now, 0 ≤ base → cached.received ≤ now + policyFutureTolerance →
        now - cached.received ≤ policyMaxAge →
        ∃ policy, resolvePolicy capabilities (.policy fields) now (some base) = .ok policy ∧
          policy.maxLinear ≤ 3 / 10 ∧ policy.maxAngular ≤ 7 / 10 := by
  intro broker
  obtain ⟨cached, held, limits, base, digest, hmem, hheld, hbound, hlimits, hbase, hdigest, hequal,
    hmade⟩ := teleopPolicy_eq_policy h
  obtain ⟨hlatest, other, hother, hname⟩ := (remembered_history events).entries _ hmem
  obtain rfl : other = held := Option.some.inj (hother.symm.trans hheld)
  obtain rfl : other.robotId = robotId := hname
  obtain ⟨hinstalled, hwebsocket⟩ := bound_eq_true hheld hbound
  have hassembled := assembled_policyFields hmade
  have hvouched : Vouched cached.snapshot limits digest := by
    obtain ⟨earlier, later, registry, robot, payload, stored, pruned, generation, reply, -, -,
      hreply, -, hsnapshot, -⟩ := hlatest
    obtain ⟨reported, hreported⟩ := snapshot_of_response hreply hsnapshot
    exact vouched_of_validate hreported hlimits hdigest
  have hobject : Json.get cached.snapshot "effective_limits" = .obj limits := by
    generalize Json.get cached.snapshot "effective_limits" = value at hlimits
    cases value with
    | obj held => exact congrArg Json.obj (Option.some.inj hlimits)
    | _ => cases hlimits
  have htext : Json.get cached.snapshot "digest" = .str digest := by
    generalize Json.get cached.snapshot "digest" = value at hdigest
    cases value with
    | str held => exact congrArg Json.str (Option.some.inj hdigest)
    | _ => cases hdigest
  refine ⟨cached, other, base, limits, digest, hlatest, hinstalled, hheld, hwebsocket,
    hvouched.known, hbase, hequal, hobject, htext, hassembled, ?_⟩
  intro capabilities now hnonneg hfuture hage
  exact resolve_of_vouched hvouched hassembled hnonneg hfuture hage capabilities

/-- The receipt of a policy that is provided. -/
def Provided.receipt : Provided → Option ℚ
  | .policy fields => finiteNumber (field fields "received_mono")
  | _ => Option.none

/-- A robot that runs its third revision at 0.2 m/s. -/
def sampleSnapshot : List (String × Json) :=
  [("session_id", .str sampleId), ("desired_revision", .int 3), ("active_revision", .int 3),
    ("active_known", .bool true), ("writable", .bool true), ("activation_supported", .bool true),
    ("desired", .obj []), ("active", .obj []),
    ("effective_limits", .obj [("max_linear_m_s", .float (.finite (1 / 5))),
      ("max_angular_rad_s", .float (.finite (1 / 2)))]),
    ("hardware_session_generation", .int 7), ("pending_keys", .list []), ("catalog", .list []),
    ("safe_apply", .obj [("allowed", .bool true), ("reason", .str "")]),
    ("digest", .str wireSignature), ("compatibility", .str "")]

/-- The robot connects, reports its base and answers with that snapshot. -/
def sampleReports : List BrokerEvent :=
  sampleConnection ++ [.reported "robot-1" ⟨true, [capability], some 7⟩,
    .response 1 "robot-1" (.obj [("request_id", .str sampleId), ("outcome", .str "ok"),
      ("detail", .str ""), ("snapshot", .obj sampleSnapshot), ("job", .null)]) 1 1 1]

theorem policy_run_sampleReports :
    ∃ fields policy, ((tuningBroker (sampleBroker 512)).run {} sampleReports).teleopPolicy
        (sampleBroker 512) "robot-1" = .policy fields ∧
      resolvePolicy [tuningCapability] (.policy fields) 4 (some 7) = .ok policy ∧
      policy.maxLinear ≤ 3 / 10 := by
  have hreceipt : (((tuningBroker (sampleBroker 512)).run {} sampleReports).teleopPolicy
      (sampleBroker 512) "robot-1").receipt = some 1 := by decide +kernel
  have hview : (((tuningBroker (sampleBroker 512)).run {} sampleReports).view
      "robot-1").baseGeneration = some 7 := by decide +kernel
  cases hprovided : ((tuningBroker (sampleBroker 512)).run {} sampleReports).teleopPolicy
      (sampleBroker 512) "robot-1" with
  | raised =>
    rw [hprovided] at hreceipt
    cases hreceipt
  | none =>
    rw [hprovided] at hreceipt
    cases hreceipt
  | policy fields =>
    obtain ⟨cached, held, base, limits, digest, -, -, -, -, -, hbase, -, -, -, hassembled,
      haccepted⟩ := policy_run (sampleBroker 512) sampleReports "robot-1" fields hprovided
    rw [hprovided, Provided.receipt, field, hassembled.receipt, finiteNumber] at hreceipt
    obtain rfl : base = 7 := Option.some.inj (hbase.symm.trans hview)
    rw [Option.some.inj hreceipt] at haccepted
    obtain ⟨policy, hpolicy, hlinear, -⟩ := haccepted [tuningCapability] 4 (by decide)
      (by decide +kernel) (by decide +kernel)
    exact ⟨fields, policy, rfl, hpolicy, hlinear⟩

end PatrolBot.Tuning
