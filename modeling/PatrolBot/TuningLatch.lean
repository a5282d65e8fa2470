import PatrolBot.TuningSingleFlight
import PatrolBot.TeleopPublication

/-!
# The tuning policy and manual drive

`RosTuning.teleop_policy` and `policy_required`, wired into `TeleopSession` as
`bridge_node.py` does.  Whether a missing policy means the fixed envelope or a
refusal is decided by a flag in the other object: once set it stays.
-/

namespace PatrolBot

namespace Tuning.Bridge

section

variable (repr : Json → String)

/-- The mapping `teleop_policy` builds, or `none` where a key it reads is
    missing. -/
def policyMapping (snapshot limits base : List (String × Json)) (digest : String) (at' : ℚ) :
    Option Json :=
  match Json.lookup "session_id" snapshot, Json.lookup "active_revision" snapshot,
    Json.lookup "session_generation" base with
  | some session, some revision, some robot =>
    let generation := session.shown repr ++ ":" ++ revision.shown repr ++ ":" ++
      removeStart "sha256:" digest
    some (.obj (insertAt "robot_generation" robot
      (insertAt "received_mono" (.float (.finite at'))
        (insertAt "generation" (.str generation) limits))))
  | _, _, _ => none

/-- `teleop_policy`, with the latest base state. -/
def Adapter.teleopPolicy (a : Adapter) (base : List (String × Json)) : PolicyRead :=
  match a.snapshot, a.snapshotAt with
  | some snapshot, some at' =>
    if (Json.get snapshot "active_known").truthy = false then .value .null
    else if Json.equal (Json.get snapshot "hardware_session_generation")
        (Json.get base "session_generation") = false then .value .null
    else match entries (Json.get snapshot "effective_limits"),
        asText (Json.get snapshot "digest") with
      | some limits, some digest => match policyMapping repr snapshot limits base digest at' with
        | some mapping => .value mapping
        | none => .raised
      | _, _ => .value .null
  | _, _ => .value .null

end

/-! ### The two objects together -/

variable {Context : Type}

/-- The adapter, the session it is wired to, and the latest base state. -/
structure Robot (Context : Type) where
  tuning : Adapter := {}
  teleop : TeleopSession Context := {}
  base : List (String × Json) := []

inductive RobotEvent (Context : Type) where
  | tuning (event : AdapterEvent)
  | base (fields : List (String × Json))
  | teleop (call : TeleopCall Context) (answers : Answers)

inductive RobotEmit (Context : Type) where
  | tuning (emit : AdapterEmit)
  | teleop (emit : Emit Context)

namespace Robot

variable (repr : Json → String) (robot : Robot Context)

/-- The answers of a call, the policy and whether one is required being the
    adapter's. -/
def inform (answers : Answers) : Answers :=
  { answers with
    policy := ⟨robot.tuning.teleopPolicy repr robot.base, robot.tuning.policyRequired,
      answers.policy.now⟩ }

/-- A call whose confirmation asks the adapter too. -/
def informCall : TeleopCall Context → TeleopCall Context
  | .start data context receivedAt deferAck confirming =>
    .start data context receivedAt deferAck (robot.inform repr confirming)
  | call => call

variable [DecidableEq Context] (floats : FloatTexts) (deadlineS : ℚ) (contract : TeleopContract)

/-- One event. -/
def step : RobotEvent Context → Robot Context × List (RobotEmit Context)
  | .tuning event =>
    let (tuning, emits) := robot.tuning.step floats deadlineS event
    ({ robot with tuning := tuning }, emits.map .tuning)
  | .base fields => ({ robot with base := fields }, [])
  | .teleop call answers =>
    let (teleop, emits) := robot.teleop.step contract
      (robot.informCall repr call, robot.inform repr answers)
    ({ robot with teleop := teleop }, emits.map .teleop)

end Robot

/-- The bridge as far as tuning and manual drive go. -/
def robotBridge (Context : Type) [DecidableEq Context] (repr : Json → String) (floats : FloatTexts)
    (deadlineS : ℚ) (contract : TeleopContract) :
    Machine (Robot Context) (RobotEvent Context) (RobotEmit Context) where
  step robot := robot.step repr floats deadlineS contract

/-! ### What a session publishes and under which policy -/

section

variable {Context : Type} [DecidableEq Context] {contract : TeleopContract}
variable {s : TeleopSession Context}

/-- The answers on the policy that a call is given. -/
def givenPolicies : TeleopCall Context × Answers → List PolicyAnswers
  | (.start _ _ _ _ confirming, answers) => [answers.policy, confirming.policy]
  | (_, answers) => [answers.policy]

/-- An emit that is no inactive motion, and no policy but one resolved from
    these answers. -/
def Sound (contract : TeleopContract) (given : List PolicyAnswers) (e : Emit Context) : Prop :=
  (∀ linear angular, e = .publish linear angular false → linear = 0 ∧ angular = 0) ∧
    ∀ policy, e = .resolved policy → ∃ answers ∈ given,
      policy = PatrolBot.resolvePolicy contract.linear.max contract.angular.max answers

omit [DecidableEq Context] in
theorem sound_of_quiet {given : List PolicyAnswers} {e : Emit Context}
    (hquiet : TeleopSession.Quiet e) (hzero : ∀ linear angular, e = .publish linear angular false →
      linear = 0 ∧ angular = 0) : Sound contract given e :=
  ⟨hzero, fun policy he => absurd he (hquiet.2.2 policy)⟩

omit [DecidableEq Context] in
theorem sound_append {given : List PolicyAnswers} {emits more : List (Emit Context)}
    (hemits : ∀ e ∈ emits, Sound contract given e) (hmore : ∀ e ∈ more, Sound contract given e) :
    ∀ e ∈ emits ++ more, Sound contract given e := by
  intro e he
  rcases List.mem_append.mp he with he | he
  · exact hemits e he
  · exact hmore e he

omit [DecidableEq Context] in
theorem sound_endSession {given : List PolicyAnswers} {reason : String} {outcome : EndOutcome}
    {zeroRaises : Bool} {e : Emit Context}
    (h : e ∈ (s.endSession reason outcome zeroRaises).2) : Sound contract given e := by
  refine sound_of_quiet (TeleopSession.quiet_of_mem_endSession h) ?_
  rintro linear angular rfl
  unfold TeleopSession.endSession at h
  dsimp only at h
  split at h
  · simpa using h
  · split at h <;> simpa using h

omit [DecidableEq Context] in
theorem sound_endAfter {given : List PolicyAnswers} {emits : List (Emit Context)} {reason : String}
    {outcome : EndOutcome} {zeroRaises value : Bool}
    (hemits : ∀ e ∈ emits, Sound contract given e) :
    ∀ e ∈ (s.endAfter emits reason outcome zeroRaises value).2, Sound contract given e := by
  intro e he
  simp only [TeleopSession.endAfter, List.mem_append, List.mem_singleton] at he
  rcases he with (he | he) | rfl
  · exact hemits e he
  · exact sound_endSession he
  · simp [Sound]

theorem sound_confirmStart {given : List PolicyAnswers} {context : Context} {answers : Answers}
    (hgiven : answers.policy ∈ given) :
    ∀ e ∈ (s.confirmStart contract context answers).2, Sound contract given e := by
  have hasked : ∀ e ∈ ([.safety answers.safety] : List (Emit Context)), Sound contract given e := by
    simp [Sound]
  have hresolved : ∀ e ∈ ([.safety answers.safety, .resolved
      (PatrolBot.resolvePolicy contract.linear.max contract.angular.max answers.policy)] :
        List (Emit Context)), Sound contract given e := by
    simp only [List.mem_cons, List.not_mem_nil, or_false, forall_eq_or_imp, forall_eq]
    exact ⟨by simp [Sound], by simp, fun policy he => ⟨_, hgiven, (Emit.resolved.inj he).symm⟩⟩
  unfold TeleopSession.confirmStart
  split
  · simp [Sound]
  · split
    · simp [Sound]
    · split
      · exact sound_endAfter hasked
      · split
        · exact sound_endAfter hasked
        · dsimp only
          split
          · exact sound_endAfter hresolved
          · split
            · exact sound_endAfter hresolved
            · exact sound_append hresolved (by simp [Sound])

theorem sound_openSession {given : List PolicyAnswers} {id : String} {context : Context}
    {signature : PolicySignature} {deferAck : Bool} {emits : List (Emit Context)}
    {answers confirming : Answers} (hemits : ∀ e ∈ emits, Sound contract given e)
    (hgiven : confirming.policy ∈ given) :
    ∀ e ∈ (s.openSession contract id context signature deferAck emits answers confirming).2,
      Sound contract given e := by
  have hopened : ∀ e ∈ emits ++ ([.opened id context signature, .publish 0 0 false] :
      List (Emit Context)), Sound contract given e := 
    sound_append hemits (by simp [Sound])
  unfold TeleopSession.openSession
  dsimp only
  split
  · exact sound_endAfter hopened
  · split
    · exact sound_append hopened (by simp [Sound])
    · exact sound_append (sound_append hopened (sound_confirmStart hgiven)) (by simp [Sound])

omit [DecidableEq Context] in
theorem sound_refuse {given : List PolicyAnswers} {emits : List (Emit Context)} {commandId : Json}
    {reason : String} (hemits : ∀ e ∈ emits, Sound contract given e) :
    ∀ e ∈ (s.refuse emits commandId reason).2, Sound contract given e := by
  exact sound_append hemits (by simp [Sound])

theorem sound_start {data : Json} {context : Context} {receivedAt : Option ℚ} {deferAck : Bool}
    {answers confirming : Answers} :
    ∀ e ∈ (s.start contract data context receivedAt deferAck answers confirming).2,
      Sound contract [answers.policy, confirming.policy] e := by
  have hnone : ∀ e ∈ ([] : List (Emit Context)),
      Sound contract [answers.policy, confirming.policy] e := by simp
  have hasked : ∀ e ∈ ([.safety answers.safety] : List (Emit Context)),
      Sound contract [answers.policy, confirming.policy] e := by
    simp [Sound]
  have hresolved : ∀ e ∈ ([.safety answers.safety, .resolved (PatrolBot.resolvePolicy
      contract.linear.max contract.angular.max answers.policy)] : List (Emit Context)),
      Sound contract [answers.policy, confirming.policy] e := by
    simp [Sound]
  unfold TeleopSession.start
  cases data with
  | obj fields =>
    dsimp only
    split
    · exact sound_refuse hnone
    · split
      · exact sound_refuse hnone
      · split
        · exact sound_refuse hnone
        · split
          · exact sound_refuse hnone
          · split
            · exact sound_refuse hasked
            · split
              · exact sound_refuse hresolved
              · split
                · exact sound_refuse hresolved
                · exact sound_openSession hresolved (by simp)
  | null | bool _ | int _ | float _ | str _ | list _ => simp [Sound]

omit [DecidableEq Context] in
theorem sound_forward {linear angular now : ℚ} {emits : List (Emit Context)} {answers : Answers}
    (hemits : ∀ e ∈ emits, Sound contract [answers.policy] e) :
    ∀ e ∈ (s.forward contract linear angular now emits answers).2,
      Sound contract [answers.policy] e := by
  have hresolved : ∀ e ∈ emits ++ ([.resolved (PatrolBot.resolvePolicy contract.linear.max
      contract.angular.max answers.policy)] : List (Emit Context)),
      Sound contract [answers.policy] e := 
    sound_append hemits (by simp [Sound])
  have hsafe : ∀ e ∈ emits ++ ([.resolved (PatrolBot.resolvePolicy contract.linear.max
      contract.angular.max answers.policy)] : List (Emit Context)) ++ [.safety answers.safety],
      Sound contract [answers.policy] e := 
    sound_append hresolved (by simp [Sound])
  have hmoved : ∀ e ∈ emits ++ ([.resolved (PatrolBot.resolvePolicy contract.linear.max
      contract.angular.max answers.policy)] : List (Emit Context)) ++ [.safety answers.safety] ++
      [.publish linear angular true], Sound contract [answers.policy] e := 
    sound_append hsafe (by simp [Sound])
  unfold TeleopSession.forward
  dsimp only
  split
  · exact sound_endAfter hresolved
  · split
    · exact sound_endAfter hresolved
    · split
      · exact sound_endAfter hresolved
      · split
        · exact sound_endAfter hsafe
        · split
          · exact sound_endAfter hmoved
          · exact sound_append hmoved (by simp [Sound])

omit [DecidableEq Context] in
theorem sound_acceptSample {seq : Int} {linear angular : ℚ} {deadman : Bool} {receivedAt : ℚ}
    {answers : Answers} :
    ∀ e ∈ (s.acceptSample contract seq linear angular deadman receivedAt answers).2,
      Sound contract [answers.policy] e := by
  have hsampled : ∀ e ∈ ([.sampled (answers.clock 0)] : List (Emit Context)),
      Sound contract [answers.policy] e := by
    simp [Sound]
  have haccepted : ∀ e ∈ ([.sampled (answers.clock 0), .accepted seq] : List (Emit Context)),
      Sound contract [answers.policy] e := by
    simp [Sound]
  unfold TeleopSession.acceptSample
  dsimp only
  split
  · simp [Sound]
  · split
    · exact sound_endAfter hsampled
    · split
      · exact sound_endAfter hsampled
      · split
        · exact sound_endAfter hsampled
        · split
          · exact sound_endAfter haccepted
          · exact sound_forward haccepted

theorem sound_frame {data : Json} {context : Context} {receivedAt : ℚ} {answers : Answers} :
    ∀ e ∈ (s.frame contract data context receivedAt answers).2,
      Sound contract [answers.policy] e := by
  have hnone : ∀ e ∈ ([] : List (Emit Context)), Sound contract [answers.policy] e := by simp
  unfold TeleopSession.frame
  cases data with
  | obj fields =>
    dsimp only
    split
    · simp [Sound]
    · split
      · simp [Sound]
      · split
        · simp [Sound]
        · split
          · exact sound_endAfter hnone
          · split
            · exact sound_endAfter hnone
            · split
              · simp [Sound]
              · exact sound_endAfter hnone
              · exact sound_acceptSample
  | null | bool _ | int _ | float _ | str _ | list _ => exact sound_endAfter hnone

theorem sound_tick {context : Context} {answers : Answers} :
    ∀ e ∈ (s.tick contract context answers).2, Sound contract [answers.policy] e := by
  have hasked : ∀ e ∈ ([.safety answers.safety] : List (Emit Context)),
      Sound contract [answers.policy] e := by
    simp [Sound]
  have hresolved : ∀ e ∈ ([.safety answers.safety, .resolved (PatrolBot.resolvePolicy
      contract.linear.max contract.angular.max answers.policy)] : List (Emit Context)),
      Sound contract [answers.policy] e := by
    simp [Sound]
  have hended : ∀ (emits : List (Emit Context)) reason outcome,
      (∀ e ∈ emits, Sound contract [answers.policy] e) →
      ∀ e ∈ emits ++ (s.endSession reason outcome answers.zeroRaises).2,
        Sound contract [answers.policy] e :=
    fun emits reason outcome hemits => sound_append hemits fun e he => sound_endSession he
  unfold TeleopSession.tick
  dsimp only
  split
  · simp
  · split
    · exact hended _ _ _ hasked
    · split
      · exact hended _ _ _ hasked
      · split
        · exact hended _ _ _ hresolved
        · split
          · exact hended _ _ _ hresolved
          · split
            · split
              · split
                · exact hended _ _ _ hresolved
                · exact hresolved
              · exact sound_append hresolved (by simp [Sound])
            · split
              · split
                · exact hended _ _ _ hresolved
                · exact hresolved
              · exact sound_append hresolved (by simp [Sound])

/-- Everything a call emits is accounted for by the answers it is given. -/
theorem sound_step (call : TeleopCall Context × Answers) :
    ∀ e ∈ (TeleopSession.step contract s call).2, Sound contract (givenPolicies call) e := by
  obtain ⟨call, answers⟩ := call
  cases call with
  | start data context receivedAt deferAck confirming => exact sound_start
  | confirmStart context => exact sound_confirmStart (by simp [givenPolicies])
  | frame data context receivedAt => exact sound_frame
  | tick context => exact sound_tick
  | endSession reason outcome => exact fun e he => sound_endSession he

end

/-- What a required policy resolves to is a dynamic one. -/
theorem dynamic_of_required {hardLinear hardAngular : ℚ} {answers : PolicyAnswers}
    {policy : RuntimePolicy} (hrequired : answers.required = true)
    (h : PatrolBot.resolvePolicy hardLinear hardAngular answers = .ok policy) :
    policy.dynamic = true := by
  unfold PatrolBot.resolvePolicy at h
  split at h
  · cases h
  · simp [hrequired] at h
  · unfold parseRuntimePolicy at h
    repeat' split at h
    all_goals cases h
    rfl

/-! ### The flag stays -/

/-- The `data` of an `ok` response whose snapshot says that a policy is
    required. -/
def Flagged (data : Json) : Prop :=
  isText (part data "outcome") "ok" = true ∧
    (part (part data "snapshot") "policy_required").isTrue = true

/-- A method that never takes the flag back and sets it with every flagged
    response. -/
def Latches (required : Bool) (result : Adapter × List AdapterEmit) : Prop :=
  (required = true → result.1.policyRequired = true) ∧
    ∀ origin data sent generation, .response origin data sent generation ∈ result.2 →
      Flagged data → result.1.policyRequired = true

section

variable {floats : FloatTexts} {deadlineS : ℚ} {a : Adapter} {origin : Origin}
variable {requestId detail outcome : String} {value : Json} {inflight : Inflight} {reply : Reply}
variable {answers : TickAnswers} {keptAt : ℚ}

theorem latches_silent {next : Adapter} (h : a.policyRequired = true → next.policyRequired = true) :
    Latches a.policyRequired (next, []) :=
  ⟨h, by simp⟩

theorem not_flagged_replyBody (houtcome : (outcome == "ok") = false) :
    ¬ Flagged (replyBody requestId outcome detail) := by
  intro hflagged
  have hpart : part (replyBody requestId outcome detail) "outcome" = .str outcome := rfl
  have hok := hflagged.1
  rw [hpart] at hok
  simp [isText, asText, houtcome] at hok

theorem latches_reply {next : Adapter} (hkeep : next.policyRequired = a.policyRequired)
    (houtcome : (outcome == "ok") = false) :
    Latches a.policyRequired (next, [a.respond origin (replyBody requestId outcome detail)]) := by
  constructor
  · intro hrequired
    exact hkeep.trans hrequired
  · intro origin' data sent generation hmem hflagged
    simp only [Adapter.respond, List.mem_singleton, AdapterEmit.response.injEq] at hmem
    obtain ⟨-, rfl, -, -⟩ := hmem
    exact absurd hflagged (not_flagged_replyBody houtcome)

theorem latches_sendUnknown : Latches a.policyRequired (a.sendUnknown origin requestId detail) :=
  latches_reply rfl rfl

theorem latches_relay : Latches a.policyRequired (a.relay inflight value keptAt) := by
  unfold Adapter.relay
  split
  · exact latches_sendUnknown
  · rename_i data hdata
    split
    · have hpart : ∀ key, part value key = Json.get data key := by
        intro key
        simp only [part, hdata, Option.getD_some]
      have hflag : ∀ snapshot, entries (Json.get data "snapshot") = some snapshot →
          Flagged value → (Json.get snapshot "policy_required").isTrue = true := by
        intro snapshot hsnapshot hflagged
        have hdeep := hflagged.2
        rw [hpart "snapshot", part, hsnapshot] at hdeep
        exact hdeep
      unfold Adapter.keep
      cases hsnapshot : entries (Json.get data "snapshot") with
      | none =>
        refine ⟨fun h => h, ?_⟩
        intro origin' data' sent generation hmem hflagged
        simp only [Adapter.respond, List.nil_append, List.mem_singleton,
          AdapterEmit.response.injEq] at hmem
        obtain ⟨-, rfl, -, -⟩ := hmem
        have hempty := hflagged.2
        rw [hpart, part, hsnapshot] at hempty
        exact absurd hempty (by decide)
      | some snapshot =>
        by_cases hok : isText (Json.get data "outcome") "ok" = true
        · simp only [hok, if_true]
          refine ⟨?_, ?_⟩
          · intro hrequired
            simp [hrequired]
          · intro origin' data' sent generation hmem hflagged
            simp only [Adapter.respond, List.singleton_append, List.mem_cons, reduceCtorEq,
              List.not_mem_nil, or_false, false_or, AdapterEmit.response.injEq] at hmem
            obtain ⟨-, rfl, -, -⟩ := hmem
            simp [hflag snapshot hsnapshot hflagged]
        · simp only [hok, Bool.false_eq_true, if_false]
          refine ⟨fun h => h, ?_⟩
          intro origin' data' sent generation hmem hflagged
          simp only [Adapter.respond, List.nil_append, List.mem_singleton,
            AdapterEmit.response.injEq] at hmem
          obtain ⟨-, rfl, -, -⟩ := hmem
          exact absurd (hpart "outcome" ▸ hflagged.1) hok
    · exact latches_sendUnknown

theorem latches_finish : Latches a.policyRequired (a.finish inflight reply keptAt) := by
  unfold Adapter.finish
  split
  · exact latches_silent fun h => h
  · cases reply with
    | raised error => exact latches_sendUnknown
    | noText => exact latches_sendUnknown
    | tooLarge => exact latches_sendUnknown
    | notJson => exact latches_sendUnknown
    | data value => exact latches_relay

theorem latches_ended {call : Nat} {result : Adapter × List AdapterEmit}
    (h : Latches a.policyRequired result) :
    Latches a.policyRequired (result.1, .ended call :: result.2) := by
  refine ⟨h.1, ?_⟩
  intro origin data sent generation hmem hflagged
  rcases List.mem_cons.mp hmem with hended | hmem
  · cases hended
  · exact h.2 origin data sent generation hmem hflagged

theorem latches_settle : Latches a.policyRequired (a.settle deadlineS inflight answers) := by
  unfold Adapter.settle
  split
  · exact latches_ended (@latches_finish { a with inflight := none } inflight _ answers.keptAt)
  · split
    · exact latches_ended (@latches_sendUnknown { a with inflight := none } inflight.origin
        inflight.requestId _)
    · exact latches_silent fun h => h

theorem latches_dispatch {wrapper : Json} {required : Bool} (h : a.policyRequired = required) :
    Latches required (a.dispatch floats origin wrapper answers) := by
  subst h
  unfold Adapter.dispatch
  dsimp only
  split
  · exact latches_reply rfl rfl
  · split
    · exact latches_reply rfl rfl
    · split
      · exact latches_reply rfl rfl
      · split
        · exact latches_sendUnknown
        · exact ⟨fun h => h, by simp⟩

theorem latches_tick : Latches a.policyRequired (a.tick floats deadlineS answers) := by
  unfold Adapter.tick
  split
  · exact latches_settle
  · split
    · exact latches_dispatch rfl
    · split
      · exact latches_dispatch rfl
      · exact latches_silent fun h => h

/-- No event takes the flag back. -/
theorem latches_step (event : AdapterEvent) :
    Latches a.policyRequired (a.step floats deadlineS event) := by
  cases event with
  | enqueue payload =>
    simp only [Adapter.step, Adapter.enqueue]
    split
    · exact latches_reply rfl rfl
    · exact latches_silent fun h => h
  | tick answers => exact latches_tick
  | completed call reply =>
    simp only [Adapter.step, Adapter.completed]
    split
    · exact latches_silent fun h => h
    · split <;> exact latches_silent fun h => h
  | disconnected =>
    simp only [Adapter.step, Adapter.disconnected]
    split
    · exact latches_silent fun h => h
    · exact ⟨fun h => h, by simp⟩
  | connect => exact latches_silent fun h => h
  | cut => exact latches_silent fun h => h
  | generationChange => exact latches_silent fun h => h

end

theorem required_run {floats : FloatTexts} {deadlineS : ℚ} {a : Adapter}
    (events : List AdapterEvent) :
    ∀ origin data sent generation, .response origin data sent generation ∈
        outputs ((rosTuning floats deadlineS).trace a events) → Flagged data →
      ((rosTuning floats deadlineS).run a events).policyRequired = true := by
  have hstays : ∀ (a : Adapter), a.policyRequired = true → ∀ events,
      ((rosTuning floats deadlineS).run a events).policyRequired = true := by
    intro a hrequired events
    exact (rosTuning floats deadlineS).invariant (fun a => a.policyRequired = true)
      (fun a event _ h => (latches_step event).1 h) hrequired
      ((rosTuning floats deadlineS).along_true a events)
  induction events generalizing a with
  | nil => simp [outputs]
  | cons event events ih =>
    intro origin data sent generation hmem hflagged
    rcases List.mem_append.mp hmem with hnow | hlater
    · exact hstays _ ((latches_step event).2 origin data sent generation hnow hflagged) events
    · exact ih origin data sent generation hlater hflagged

/-! ### What is read after a disconnection -/

/-- What a step does to the kept snapshot: nothing, it is dropped, or that of an
    `ok` reply to the awaited call, relayed on the generation of the call, takes
    its place. -/
inductive SnapshotMove (a : Adapter) : Adapter × List AdapterEmit → Prop
  | same (result : Adapter × List AdapterEmit) (heq : result.1.snapshot = a.snapshot)
      (hnone : ∀ snapshot call generation, .kept snapshot call generation ∉ result.2) :
      SnapshotMove a result
  | dropped (result : Adapter × List AdapterEmit) (heq : result.1.snapshot = none)
      (hnone : ∀ snapshot call generation, .kept snapshot call generation ∉ result.2) :
      SnapshotMove a result
  | kept (inflight : Inflight) (next : Adapter) (data : Json) (snapshot : List (String × Json))
      (hinflight : a.inflight = some inflight)
      (hgeneration : inflight.generation = a.connectionGeneration)
      (hok : isText (part data "outcome") "ok" = true)
      (hsnapshot : entries (part data "snapshot") = some snapshot) :
      SnapshotMove a (next, [.ended inflight.call,
        .kept snapshot inflight.call inflight.generation,
        .response inflight.origin data a.connected a.connectionGeneration])

section

variable {floats : FloatTexts} {deadlineS : ℚ} {a : Adapter} {origin : Origin}
variable {requestId detail outcome : String} {value : Json} {inflight : Inflight} {reply : Reply}
variable {answers : TickAnswers} {keptAt : ℚ}

theorem same_sendUnknown {b : Adapter} {emits : List AdapterEmit} (heq : b.snapshot = a.snapshot)
    (hnone : ∀ snapshot call generation, .kept snapshot call generation ∉ emits) :
    SnapshotMove a ((b.sendUnknown origin requestId detail).1,
      emits ++ (b.sendUnknown origin requestId detail).2) := by
  refine .same _ heq ?_
  intro snapshot call generation hmem
  rcases List.mem_append.mp hmem with hmem | hmem
  · exact hnone snapshot call generation hmem
  · cases List.mem_singleton.mp hmem

theorem snapshotMove_relay (hinflight : a.inflight = some inflight)
    (hgeneration : inflight.generation = a.connectionGeneration) :
    SnapshotMove a (({ a with inflight := none }.relay inflight value keptAt).1,
      .ended inflight.call :: ({ a with inflight := none }.relay inflight value keptAt).2) := by
  unfold Adapter.relay
  split
  · exact @same_sendUnknown _ _ _ _ { a with inflight := none } [.ended inflight.call] rfl
      (by simp)
  · rename_i data hdata
    have hpart : ∀ key, part value key = Json.get data key := by
      intro key
      simp only [part, hdata, Option.getD_some]
    split
    · unfold Adapter.keep
      cases hsnapshot : entries (Json.get data "snapshot") with
      | none => exact .same _ rfl (by simp [Adapter.respond])
      | some snapshot =>
        by_cases hok : isText (Json.get data "outcome") "ok" = true
        · simp only [hok, if_true]
          exact .kept inflight _ value snapshot hinflight hgeneration (hpart "outcome" ▸ hok)
            (hpart "snapshot" ▸ hsnapshot)
        · simp only [hok, Bool.false_eq_true, if_false]
          exact .same _ rfl (by simp [Adapter.respond])
    · exact @same_sendUnknown _ _ _ _ { a with inflight := none } [.ended inflight.call] rfl
        (by simp)

theorem snapshotMove_settle (hinflight : a.inflight = some inflight) :
    SnapshotMove a (a.settle deadlineS inflight answers) := by
  have hunknown : ∀ detail, SnapshotMove a
      (({ a with inflight := none }.sendUnknown inflight.origin inflight.requestId detail).1,
        .ended inflight.call ::
          ({ a with inflight := none }.sendUnknown inflight.origin inflight.requestId detail).2) :=
    fun detail => @same_sendUnknown _ _ _ _ { a with inflight := none }
      [.ended inflight.call] rfl (by simp)
  unfold Adapter.settle
  split
  · rename_i reply hreply
    unfold Adapter.finish
    by_cases hgeneration : inflight.generation = a.connectionGeneration
    · simp only [ne_eq, hgeneration, not_true_eq_false, if_false]
      cases reply with
      | raised error => exact hunknown _
      | noText => exact hunknown _
      | tooLarge => exact hunknown _
      | notJson => exact hunknown _
      | data value => exact snapshotMove_relay hinflight hgeneration
    · simp only [ne_eq, hgeneration, not_false_eq_true, if_true]
      exact .same _ rfl (by simp)
  · split
    · exact hunknown _
    · exact .same _ rfl (by simp)

theorem snapshotMove_dispatch {taken : Adapter} {wrapper : Json}
    (heq : taken.snapshot = a.snapshot) :
    SnapshotMove a (taken.dispatch floats origin wrapper answers) := by
  unfold Adapter.dispatch
  dsimp only
  split
  · exact .same _ heq (by simp [Adapter.respond])
  · split
    · exact .same _ heq (by simp [Adapter.respond])
    · split
      · exact .same _ heq (by simp [Adapter.respond])
      · split
        · exact @same_sendUnknown _ _ _ _ _ [] heq (by simp)
        · exact .same _ heq (by simp)

theorem snapshotMove_step (event : AdapterEvent) :
    SnapshotMove a (a.step floats deadlineS event) := by
  cases event with
  | enqueue payload =>
    simp only [Adapter.step, Adapter.enqueue]
    split
    · exact .same _ rfl (by simp [Adapter.sendUnknown, Adapter.respond])
    · exact .same _ rfl (by simp)
  | tick answers =>
    simp only [Adapter.step, Adapter.tick]
    split
    · rename_i inflight hinflight
      exact snapshotMove_settle hinflight
    · split
      · exact snapshotMove_dispatch rfl
      · split
        · exact snapshotMove_dispatch rfl
        · exact .same _ rfl (by simp)
  | completed call reply =>
    simp only [Adapter.step, Adapter.completed]
    split
    · exact .same _ rfl (by simp)
    · split <;> exact .same _ rfl (by simp)
  | disconnected =>
    simp only [Adapter.step, Adapter.disconnected]
    split
    · exact .dropped _ rfl (by simp)
    · exact .dropped _ rfl (by simp)
  | connect => exact .same _ rfl (by simp [Adapter.step])
  | cut => exact .same _ rfl (by simp [Adapter.step])
  | generationChange => exact .same _ rfl (by simp [Adapter.step])

/-- The call that is awaited after a step was awaited before, or is made by it. -/
theorem inflight_of_step (event : AdapterEvent) {inflight : Inflight}
    (h : (a.step floats deadlineS event).1.inflight = some inflight) :
    (∃ earlier, a.inflight = some earlier ∧ earlier.call = inflight.call ∧
        earlier.generation = inflight.generation) ∨
      ∃ origin wrapper, .called origin inflight.call wrapper inflight.generation ∈
        (a.step floats deadlineS event).2 := by
  cases event with
  | enqueue payload =>
    have hsame : (a.enqueue payload).1.inflight = a.inflight := by
      rcases enqueue_cases (a := a) payload with heq | hrelays
      · rw [heq]
      · exact hrelays.inflight_eq
    exact Or.inl ⟨inflight, hsame ▸ h, rfl, rfl⟩
  | tick answers =>
    have hmove := @tickMove_tick floats deadlineS a answers
    have h : (a.tick floats deadlineS answers).1.inflight = some inflight := h
    change _ ∨ ∃ origin wrapper, .called origin inflight.call wrapper inflight.generation ∈
      (a.tick floats deadlineS answers).2
    generalize a.tick floats deadlineS answers = moved at hmove h
    cases hmove with
    | idle => exact Or.inl ⟨inflight, h, rfl, rfl⟩
    | settled earlier result hinflight hrelays =>
      rw [hrelays.inflight_eq] at h
      cases h
    | refused origin wrapper taken _ hfree htaken hrelays =>
      rw [hrelays.inflight_eq, (taken_frame htaken).2.1, hfree] at h
      cases h
    | called origin wrapper taken sentAt hfree htaken =>
      obtain rfl := Option.some.inj h
      exact Or.inr ⟨origin, wrapper, List.mem_singleton_self _⟩
  | completed call reply =>
    left
    simp only [Adapter.step, Adapter.completed] at h
    split at h
    · exact ⟨inflight, h, rfl, rfl⟩
    · rename_i earlier hearlier
      split at h
      · obtain rfl := Option.some.inj h
        exact ⟨earlier, hearlier, rfl, rfl⟩
      · exact ⟨inflight, h, rfl, rfl⟩
  | disconnected =>
    simp only [Adapter.step, Adapter.disconnected] at h
    split at h
    · rename_i hnone
      rw [hnone] at h
      cases h
    · cases h
  | connect => exact Or.inl ⟨inflight, h, rfl, rfl⟩
  | cut => exact Or.inl ⟨inflight, h, rfl, rfl⟩
  | generationChange => exact Or.inl ⟨inflight, h, rfl, rfl⟩

/-- The adapter since a disconnection, `history` being what happened since: the
    call it awaits was made in it, and a snapshot it holds was kept in it. -/
structure Since (history : List (AdapterEvent × List AdapterEmit)) (a : Adapter) : Prop where
  inflight_from : ∀ inflight, a.inflight = some inflight → ∃ origin wrapper,
    .called origin inflight.call wrapper inflight.generation ∈ outputs history
  snapshot_from : a.snapshot.isSome = true → ∃ snapshot call generation,
    .kept snapshot call generation ∈ outputs history

theorem since_disconnected : Since [] a.disconnected.1 := by
  unfold Adapter.disconnected
  dsimp only
  split
  · rename_i hnone
    exact ⟨by simp [hnone], by simp⟩
  · exact ⟨by simp, by simp⟩

theorem since_step {history : List (AdapterEvent × List AdapterEmit)} (h : Since history a)
    (event : AdapterEvent) :
    Since (history ++ [(event, (a.step floats deadlineS event).2)])
      (a.step floats deadlineS event).1 := by
  constructor
  · intro inflight hinflight
    rw [outputs_append, outputs_singleton]
    rcases inflight_of_step event hinflight with ⟨earlier, hearlier, hcall, hgeneration⟩ | hnow
    · obtain ⟨origin, wrapper, hcalled⟩ := h.inflight_from earlier hearlier
      rw [hcall, hgeneration] at hcalled
      exact ⟨origin, wrapper, List.mem_append_left _ hcalled⟩
    · obtain ⟨origin, wrapper, hcalled⟩ := hnow
      exact ⟨origin, wrapper, List.mem_append_right _ hcalled⟩
  · intro hsome
    rw [outputs_append, outputs_singleton]
    have hmove := @snapshotMove_step floats deadlineS a event
    generalize a.step floats deadlineS event = moved at hmove hsome
    cases hmove with
    | same result heq hnone =>
      obtain ⟨snapshot, call, generation, hkept⟩ := h.snapshot_from (heq ▸ hsome)
      exact ⟨snapshot, call, generation, List.mem_append_left _ hkept⟩
    | dropped result heq hnone =>
      rw [heq] at hsome
      cases hsome
    | kept inflight next data snapshot hinflight hgeneration hok hsnapshot =>
      exact ⟨snapshot, inflight.call, inflight.generation, List.mem_append_right _ (by simp)⟩

theorem since_run {history : List (AdapterEvent × List AdapterEmit)} (h : Since history a)
    (events : List AdapterEvent) :
    Since (history ++ (rosTuning floats deadlineS).trace a events)
      ((rosTuning floats deadlineS).run a events) := by
  induction events generalizing history a with
  | nil => simpa using h
  | cons event events ih =>
    have hnext := ih (@since_step floats deadlineS a history h event)
    simpa [rosTuning] using hnext

/-- Nothing waits, nothing is awaited and the socket is down. -/
def Emptied (a : Adapter) : Prop :=
  a.queue = [] ∧ a.inflight = none ∧ a.connected = false

theorem emptied_step {phase : WsPhase} {event : AdapterEvent} (h : Emptied a)
    (hnext : WsPhase.idle.next event = some phase) (hconnect : event ≠ .connect) :
    phase = .idle ∧ Emptied (a.step floats deadlineS event).1 ∧
      (a.step floats deadlineS event).2 = [] := by
  obtain ⟨hqueue, hfree, hdown⟩ := h
  cases event with
  | connect => exact absurd rfl hconnect
  | enqueue payload => cases hnext
  | tick answers =>
    have hidle : a.tick floats deadlineS answers = (a, []) := by
      simp [Adapter.tick, hfree, hqueue, hdown]
    simp only [Adapter.step, hidle]
    exact ⟨(Option.some.inj hnext).symm, ⟨hqueue, hfree, hdown⟩, trivial⟩
  | completed call reply =>
    have hidle : a.completed call reply = (a, []) := by
      simp [Adapter.completed, hfree]
    simp only [Adapter.step, hidle]
    exact ⟨(Option.some.inj hnext).symm, ⟨hqueue, hfree, hdown⟩, trivial⟩
  | disconnected =>
    simp only [Adapter.step, Adapter.disconnected, hfree]
    exact ⟨(Option.some.inj hnext).symm, ⟨rfl, rfl, hdown⟩, trivial⟩
  | cut => exact ⟨(Option.some.inj hnext).symm, ⟨hqueue, hfree, rfl⟩, rfl⟩
  | generationChange => exact ⟨(Option.some.inj hnext).symm, ⟨hqueue, hfree, hdown⟩, rfl⟩

/-- In the client's order nothing comes out between a disconnection and the next
    connection. -/
theorem silent_until_connect (h : Emptied a) (events : List AdapterEvent)
    (horder : WsOrder .idle events) (hconnect : .connect ∉ events) :
    outputs ((rosTuning floats deadlineS).trace a events) = [] := by
  induction events generalizing a with
  | nil => rfl
  | cons event events ih =>
    obtain ⟨next, hnext, horder⟩ := horder
    simp only [List.mem_cons, not_or] at hconnect
    obtain ⟨rfl, hemptied, hsilent⟩ :=
      @emptied_step floats deadlineS a next event h hnext (Ne.symm hconnect.1)
    have hlater := ih hemptied horder hconnect.2
    simp only [Machine.trace_cons, outputs, List.flatMap_cons]
    exact List.append_eq_nil_iff.mpr ⟨hsilent, hlater⟩

theorem emptied_disconnected (hdown : a.connected = false) : Emptied a.disconnected.1 := by
  unfold Adapter.disconnected
  dsimp only
  split
  · rename_i hnone
    exact ⟨rfl, hnone, hdown⟩
  · exact ⟨rfl, rfl, hdown⟩

theorem wsOrder_append {phase : WsPhase} {first second : List AdapterEvent}
    (h : WsOrder phase (first ++ second)) : WsOrder phase first := by
  induction first generalizing phase with
  | nil => trivial
  | cons event first ih =>
    obtain ⟨next, hnext, horder⟩ := h
    exact ⟨next, hnext, ih horder⟩

/-- Where an ordered run stands when the rest of it begins. -/
theorem synced_run {phase : WsPhase} {first second : List AdapterEvent} (h : Synced phase a)
    (horder : WsOrder phase (first ++ second)) :
    ∃ next, Synced next ((rosTuning floats deadlineS).run a first) ∧ WsOrder next second := by
  induction first generalizing a phase with
  | nil => exact ⟨phase, h, horder⟩
  | cons event first ih =>
    obtain ⟨next, hnext, horder⟩ := horder
    obtain ⟨hsynced, -⟩ := @synced_step floats deadlineS a phase next event h hnext
    exact ih hsynced horder

/-- In the client's order the socket is down when the adapter learns of it. -/
theorem down_of_disconnected {phase next : WsPhase} (h : Synced phase a)
    (hnext : phase.next .disconnected = some next) : next = .idle ∧ a.connected = false := by
  cases phase with
  | idle => exact ⟨(Option.some.inj hnext).symm, h.1⟩
  | ready => cases hnext
  | reading => cases hnext
  | cleared => cases hnext
  | counted => exact ⟨(Option.some.inj hnext).symm, h⟩

/-- A snapshot that is kept is that of an `ok` response of the same step. -/
theorem response_of_kept {event : AdapterEvent} {snapshot : List (String × Json)}
    {call generation : Nat}
    (h : .kept snapshot call generation ∈ (a.step floats deadlineS event).2) :
    (∃ inflight, a.inflight = some inflight ∧ inflight.call = call ∧
      inflight.generation = generation) ∧
      ∃ origin data sent, .response origin data sent generation ∈
        (a.step floats deadlineS event).2 ∧ isText (part data "outcome") "ok" = true ∧
        entries (part data "snapshot") = some snapshot := by
  have hmove := @snapshotMove_step floats deadlineS a event
  generalize a.step floats deadlineS event = moved at hmove h
  cases hmove with
  | same result heq hnone => exact absurd h (hnone snapshot call generation)
  | dropped result heq hnone => exact absurd h (hnone snapshot call generation)
  | kept inflight next data snapshot' hinflight hgeneration hok hsnapshot =>
    simp only [List.mem_cons, reduceCtorEq, List.not_mem_nil, or_false, false_or,
      AdapterEmit.kept.injEq] at h
    obtain ⟨rfl, rfl, rfl⟩ := h
    exact ⟨⟨inflight, hinflight, rfl, rfl⟩,
      inflight.origin, data, a.connected, by simp [hgeneration], hok, hsnapshot⟩

theorem synced_initial : Synced .idle {} := ⟨rfl, by simp, by simp⟩

theorem trace_fst (events : List AdapterEvent) :
    ((rosTuning floats deadlineS).trace a events).map Prod.fst = events := by
  induction events generalizing a with
  | nil => rfl
  | cons event events ih => exact congrArg (event :: ·) ih

theorem teleopPolicy_of_none {repr : Json → String} {base : List (String × Json)}
    (h : a.snapshot = none) : a.teleopPolicy repr base = .value .null := by
  simp only [Adapter.teleopPolicy, h]

end

/-! ### Both objects over every run -/

section

variable {Context : Type}

/-- The tuning side of a run. -/
def tuningEvents (events : List (RobotEvent Context)) : List AdapterEvent :=
  events.filterMap fun event => match event with
    | .tuning event => some event
    | _ => none

theorem tuningEvents_append (first second : List (RobotEvent Context)) :
    tuningEvents (first ++ second) = tuningEvents first ++ tuningEvents second :=
  List.filterMap_append

def tuningEmits (emits : List (RobotEmit Context)) : List AdapterEmit :=
  emits.filterMap fun emit => match emit with
    | .tuning emit => some emit
    | .teleop _ => none

def tuningHistory (history : List (RobotEvent Context × List (RobotEmit Context))) :
    List (AdapterEvent × List AdapterEmit) :=
  history.filterMap fun segment => match segment.1 with
    | .tuning event => some (event, tuningEmits segment.2)
    | _ => none

/-- An `ok` response of the history has reported that a policy is required. -/
def Reported (history : List (RobotEvent Context × List (RobotEmit Context))) : Prop :=
  ∃ origin data sent generation,
    .response origin data sent generation ∈ outputs (tuningHistory history) ∧ Flagged data

@[simp] theorem tuningEmits_map (emits : List AdapterEmit) :
    @tuningEmits Context (emits.map .tuning) = emits := by
  induction emits with
  | nil => rfl
  | cons emit emits ih => exact congrArg (emit :: ·) ih

variable [DecidableEq Context] {repr : Json → String} {floats : FloatTexts} {deadlineS : ℚ}
variable {contract : TeleopContract} {robot : Robot Context}

/-- The tuning side of the bridge is the adapter's own run. -/
theorem tuning_run (events : List (RobotEvent Context)) :
    ((robotBridge Context repr floats deadlineS contract).run robot events).tuning =
        (rosTuning floats deadlineS).run robot.tuning (tuningEvents events) ∧
      tuningHistory ((robotBridge Context repr floats deadlineS contract).trace robot events) =
        (rosTuning floats deadlineS).trace robot.tuning (tuningEvents events) := by
  induction events generalizing robot with
  | nil => exact ⟨rfl, rfl⟩
  | cons event events ih =>
    have hlater := @ih ((robotBridge Context repr floats deadlineS contract).step robot event).1
    cases event with
    | tuning event =>
      refine ⟨hlater.1, List.cons_eq_cons.mpr ⟨?_, hlater.2⟩⟩
      exact congrArg (Prod.mk event) (tuningEmits_map _)
    | base fields => exact hlater
    | teleop call answers => exact hlater

omit [DecidableEq Context] in
/-- All that a call learns of the policy it learns from the adapter. -/
theorem required_of_given {call : TeleopCall Context} {answers : Answers} {given : PolicyAnswers}
    (h : given ∈ givenPolicies (robot.informCall repr call, robot.inform repr answers)) :
    given.required = robot.tuning.policyRequired := by
  cases call with
  | start data context receivedAt deferAck confirming =>
    simp only [Robot.informCall, givenPolicies, List.mem_cons, List.not_mem_nil, or_false] at h
    rcases h with rfl | rfl
    · rfl
    · rfl
  | confirmStart context | frame data context receivedAt | tick context
  | endSession reason outcome =>
    simp only [Robot.informCall, givenPolicies, List.mem_singleton] at h
    rw [h]
    rfl

/-- While a policy is required no motion leaves under any but a dynamic one. -/
theorem dynamic_of_motion {event : RobotEvent Context}
    (hrequired : robot.tuning.policyRequired = true) {linear angular : ℚ} {active : Bool}
    (hmotion : .teleop (.publish linear angular active) ∈
      (robot.step repr floats deadlineS contract event).2)
    (hmoving : linear ≠ 0 ∨ angular ≠ 0) :
    (∃ policy, .teleop (.resolved (.ok policy)) ∈
        (robot.step repr floats deadlineS contract event).2) ∧
      ∀ policy, .teleop (.resolved (.ok policy)) ∈
        (robot.step repr floats deadlineS contract event).2 → policy.dynamic = true := by
  cases event with
  | tuning event => simp [Robot.step] at hmotion
  | base fields => simp [Robot.step] at hmotion
  | teleop call answers =>
    simp only [Robot.step, List.mem_map, RobotEmit.teleop.injEq, exists_eq_right] at hmotion ⊢
    constructor
    · cases active with
      | false =>
        have hzero := (sound_step _ _ hmotion).1 linear angular rfl
        exact absurd hzero (by grind)
      | true =>
        obtain ⟨_, _, _, _, _, _, policy, tail, -, -, -, -, -, -, -, -, -, -, -, -, -, -, -, -,
          hemits, -⟩ := TeleopSession.motion_of_step contract hmotion
        exact ⟨policy, by rw [hemits]; simp⟩
    · intro policy hpolicy
      obtain ⟨given, hgiven, heq⟩ := (sound_step _ _ hpolicy).2 _ rfl
      exact dynamic_of_required ((required_of_given hgiven).trans hrequired) heq.symm

/-- Once a policy was reported as required it is. -/
theorem required_of_reported (events : List (RobotEvent Context))
    (h : Reported ((robotBridge Context repr floats deadlineS contract).trace robot events)) :
    ((robotBridge Context repr floats deadlineS contract).run robot events).tuning.policyRequired =
      true := by
  obtain ⟨origin, data, sent, generation, hmem, hflagged⟩ := h
  obtain ⟨hrun, htrace⟩ := @tuning_run Context _ repr floats deadlineS contract robot events
  rw [htrace] at hmem
  rw [hrun]
  exact required_run _ origin data sent generation hmem hflagged

end

/-- Over every run of the two objects, once an `ok` response has reported that a
    policy is required, whatever moves the robot does so under a policy that was
    resolved in the same call and is dynamic.  After a disconnection there is
    nothing to report until a snapshot is kept: that of an `ok` response to a call
    made since, on the generation of that call, and in the client's order after
    the next connection. -/
theorem robotBridge_run {Context : Type} [DecidableEq Context] (repr : Json → String)
    (floats : FloatTexts) (deadlineS : ℚ) (contract : TeleopContract)
    (events : List (RobotEvent Context)) :
    let bridge := robotBridge Context repr floats deadlineS contract
    (∀ before segment after, bridge.trace {} events = before ++ segment :: after →
      Reported before → ∀ linear angular active,
        .teleop (.publish linear angular active) ∈ segment.2 → linear ≠ 0 ∨ angular ≠ 0 →
        (∃ policy, .teleop (.resolved (.ok policy)) ∈ segment.2) ∧
          ∀ policy, .teleop (.resolved (.ok policy)) ∈ segment.2 → policy.dynamic = true) ∧
    (∀ earlier later, events = earlier ++ .tuning .disconnected :: later →
      let lost := bridge.run {} (earlier ++ [.tuning .disconnected])
      let since := tuningHistory (bridge.trace lost later)
      let robot := bridge.run lost later
      (robot.tuning.teleopPolicy repr robot.base ≠ .value .null →
        ∃ snapshot call generation, .kept snapshot call generation ∈ outputs since) ∧
      ∀ before event emits after, since = before ++ (event, emits) :: after →
        ∀ snapshot call generation, .kept snapshot call generation ∈ emits →
          (∃ origin wrapper, .called origin call wrapper generation ∈ outputs before) ∧
          (∃ origin data sent, .response origin data sent generation ∈ emits ∧
            isText (part data "outcome") "ok" = true ∧
            entries (part data "snapshot") = some snapshot) ∧
          (WsOrder .idle (tuningEvents events) → .connect ∈ before.map Prod.fst)) := by
  intro bridge
  constructor
  · intro before segment after htrace hreported linear angular active hmotion hmoving
    obtain ⟨fs, event, gs, -, rfl, rfl⟩ := bridge.exists_of_trace_eq htrace
    exact dynamic_of_motion (required_of_reported fs hreported) hmotion hmoving
  · rintro earlier later rfl lost since robot
    obtain ⟨hrun, htrace⟩ := @tuning_run Context _ repr floats deadlineS contract lost later
    have hlost : lost.tuning = ((bridge.run {} earlier).tuning.disconnected).1 := by
      simp only [lost, Machine.run_append, Machine.run_cons, Machine.run_nil]
      rfl
    have hsince : Since since robot.tuning := by
      have hstart := @since_disconnected (bridge.run {} earlier).tuning
      rw [← hlost] at hstart
      have hall := @since_run floats deadlineS _ [] hstart (tuningEvents later)
      rw [← htrace, ← hrun] at hall
      exact hall
    constructor
    · intro hpolicy
      apply hsince.snapshot_from
      by_contra hnone
      exact hpolicy (teleopPolicy_of_none (by simpa using hnone))
    · intro before event emits after hsplit snapshot call generation hkept
      simp only [since] at hsplit
      rw [htrace] at hsplit
      obtain ⟨fs, e, gs, hlater, rfl, hsegment⟩ :=
        (rosTuning floats deadlineS).exists_of_trace_eq hsplit
      obtain ⟨rfl, rfl⟩ := Prod.mk.inj hsegment
      have hstart := @since_disconnected (bridge.run {} earlier).tuning
      rw [← hlost] at hstart
      have hbefore := @since_run floats deadlineS _ [] hstart fs
      rw [List.nil_append] at hbefore
      obtain ⟨⟨inflight, hinflight, rfl, rfl⟩, hresponse⟩ := response_of_kept hkept
      obtain ⟨origin, wrapper, hcalled⟩ := hbefore.inflight_from inflight hinflight
      refine ⟨⟨origin, wrapper, hcalled⟩, hresponse, ?_⟩
      intro horder
      rw [trace_fst]
      by_contra hconnect
      have hemptied : Emptied lost.tuning ∧ WsOrder .idle (tuningEvents later) := by
        have hfirst := @tuning_run Context _ repr floats deadlineS contract {} earlier
        rw [tuningEvents_append] at horder
        obtain ⟨phase, hsynced, next, hnext, hrest⟩ :=
          @synced_run floats deadlineS _ _ _ _ synced_initial horder
        obtain ⟨rfl, hdown⟩ := down_of_disconnected hsynced hnext
        rw [hlost, hfirst.1]
        exact ⟨emptied_disconnected hdown, hrest⟩
      rw [hlater] at hemptied
      rw [silent_until_connect hemptied.1 fs (wsOrder_append hemptied.2) hconnect] at hcalled
      exact absurd hcalled List.not_mem_nil

end Tuning.Bridge

end PatrolBot
