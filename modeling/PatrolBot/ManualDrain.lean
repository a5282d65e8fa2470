import Mathlib.Tactic.Linarith
import PatrolBot.TeleopSession

/-!
# The drain before manual input

`RosTeleop` of `teleop.py` accepts manual input only when the velocities of the autonomous
stack have drained from the two topics behind the multiplexer.  A callback observes each
topic while a session is open; a tick confirms the session once both have carried nothing
but zeros for half a second.

The callbacks and the timer share the node's callback group, which excludes them mutually:
a run is a sequence of whole callbacks.
-/

namespace PatrolBot

/-- `HARDWARE_TIMEOUT_S`. -/
def hardwareTimeoutS : ℚ := 1 / 2

/-- The topics whose drain is observed. -/
inductive BufferTopic where
  | cmdVelOut
  | cmdVel
deriving DecidableEq

/-- The node that alone publishes on a topic. -/
def BufferTopic.publisher : BufferTopic → String
  | .cmdVelOut => "cmd_vel_mux"
  | .cmdVel => "teleop_velocity_smoother"

/-- An entry of `get_publishers_info_by_topic`. -/
structure Endpoint where
  nodeName : String
  nodeNamespace : String
  topicType : String
  endpointGid : List UInt8

/-- The entry belongs to this node, at the root, and carries velocities. -/
def Endpoint.servedBy (endpoint : Endpoint) (publisher : String) : Bool :=
  decide (endpoint.nodeName = publisher) && decide (endpoint.nodeNamespace = "/") &&
    decide (endpoint.topicType = "geometry_msgs/msg/Twist")

structure Vector3 where
  x : PyFloat
  y : PyFloat
  z : PyFloat

/-- A velocity message. -/
structure Twist where
  linear : Vector3
  angular : Vector3

def Twist.values (message : Twist) : List PyFloat :=
  [message.linear.x, message.linear.y, message.linear.z,
    message.angular.x, message.angular.y, message.angular.z]

/-- What a buffer callback learns: the publishers of the topic, the source's stamp and the
    clock of the node in nanoseconds, the message and the monotonic clock. -/
structure BufferSample where
  endpoints : List Endpoint
  stamp : Int
  clock : Int
  message : Twist
  now : ℚ

namespace BufferSample

/-- The age of the sample in seconds. -/
def age (sample : BufferSample) : ℚ := (sample.clock - sample.stamp : ℤ) / 1000000000

/-- The sample comes from the sole publisher of its topic and is recent. -/
def attributed (topic : BufferTopic) (sample : BufferSample) : Bool :=
  match sample.endpoints with
  | [endpoint] =>
    endpoint.servedBy topic.publisher && decide (0 ≤ sample.age) &&
      decide (sample.age ≤ hardwareTimeoutS)
  | _ => false

def isFinite (sample : BufferSample) : Bool := sample.message.values.all PyFloat.isFinite

/-- `all(value == 0 for value in values)`. -/
def isZero (sample : BufferSample) : Bool :=
  sample.message.values.all fun
    | .finite value => decide (value = 0)
    | _ => false

end BufferSample

variable {Context : Type}

/-- An entry of `_drain`: since when the topic carries only zeros, if it does, and when it
    was observed last. -/
structure DrainEntry where
  since : Option ℚ
  last : ℚ

/-- The fields of `RosTeleop` that the drain is about. -/
structure RosTeleop (Context : Type) where
  session : TeleopSession Context := {}
  drain : BufferTopic → Option DrainEntry := fun _ => none
  /-- `_drain_source`, zero where it has no entry. -/
  drainSource : BufferTopic → Int := fun _ => 0
  writers : Option (List (List UInt8)) := none

/-- What one lookup of `_path_identity` gives; `none` where it raises. -/
abbrev PublishersLookup := Option (List Endpoint)

/-- The lookups of `_path_identity`: the topic of the manual input and the two buffers. -/
structure PathLookups where
  velocity : PublishersLookup
  cmdVelOut : PublishersLookup
  cmdVel : PublishersLookup

inductive RosTeleopCall (Context : Type) where
  /-- `_on_buffer`; there is no sample where its attributes cannot be read. -/
  | buffer (topic : BufferTopic) (sample : Option BufferSample) (zeroRaises : Bool)
  /-- `handle` of a `teleop_start`. -/
  | handleStart (fields : List (String × Json)) (context : Context) (receivedAt : Option ℚ)
      (path : PathLookups) (answers : Answers)
  /-- A velocity frame. -/
  | frame (data : Json) (context : Context) (receivedAt : ℚ) (answers : Answers)
  /-- `session.end`, by a `teleop_stop`, the joystick, an action, a hold, another command,
      a lost connection or the shutdown. -/
  | endSession (reason : String) (outcome : EndOutcome) (zeroRaises : Bool)
  /-- `tick`, begun at `now`: `session.tick` learns the first answers and `confirm_start`,
      if it is called, the second.  One of the publications between them may raise. -/
  | tick (now : ℚ) (context : Context) (answers : Answers) (publishRaises : Bool)
      (confirmContext : Context) (confirming : Answers)

inductive RosTeleopNote (Context : Type) where
  | session (emit : Emit Context)
  /-- A buffer callback was called. -/
  | observed (topic : BufferTopic) (sample : Option BufferSample)
  /-- A tick that began at `now` calls `confirm_start`. -/
  | confirming (now : ℚ)

namespace RosTeleop

/-- The check of a topic of the path: its identity if `publisher` is its sole publisher. -/
def identity (publisher : String) : PublishersLookup → Option (List UInt8)
  | some [endpoint] =>
    if endpoint.servedBy publisher then some endpoint.endpointGid else none
  | _ => none

/-- `_path_identity`. -/
def pathIdentity (path : PathLookups) : Option (List (List UInt8)) :=
  match identity "patrolbot_web_bridge" path.velocity,
      identity BufferTopic.cmdVelOut.publisher path.cmdVelOut,
      identity BufferTopic.cmdVel.publisher path.cmdVel with
  | some velocity, some cmdVelOut, some cmdVel => some [velocity, cmdVelOut, cmdVel]
  | _, _, _ => none

/-- The session after one of its methods, and what the method did. -/
def withSession (s : RosTeleop Context)
    (result : TeleopSession Context × List (Emit Context)) :
    RosTeleop Context × List (RosTeleopNote Context) :=
  ({ s with session := result.1 }, result.2.map .session)

/-- The entry of a topic after a finite sample. -/
def drainAfter (s : RosTeleop Context) (topic : BufferTopic) (sample : BufferSample) :
    Option DrainEntry :=
  let since := (s.drain topic).bind DrainEntry.since
  if sample.isZero then some ⟨some (since.getD sample.now), sample.now⟩
  else if s.session.acknowledged = false then some ⟨none, sample.now⟩
  else s.drain topic

/-- The end of `_on_buffer` where the sample is refused. -/
def refuseBuffer (s : RosTeleop Context) (zeroRaises : Bool) :
    RosTeleop Context × List (RosTeleopNote Context) :=
  s.withSession (s.session.endSession
    "Manual command producer changed or became stale. Start again explicitly." .failed zeroRaises)

/-- `_on_buffer`. -/
def onBuffer (s : RosTeleop Context) (topic : BufferTopic) (sample : Option BufferSample)
    (zeroRaises : Bool) : RosTeleop Context × List (RosTeleopNote Context) :=
  if s.session.commandId.isNone then (s, [])
  else match sample with
    | none => s.refuseBuffer zeroRaises
    | some sample =>
      if sample.attributed topic && decide (s.drainSource topic < sample.stamp) then
        let s := { s with drainSource := Function.update s.drainSource topic sample.stamp }
        if sample.isFinite then
          ({ s with drain := Function.update s.drain topic (s.drainAfter topic sample) }, [])
        else s.refuseBuffer zeroRaises
      else s.refuseBuffer zeroRaises

/-- `handle` of a `teleop_start`. -/
def handleStart [DecidableEq Context] (contract : TeleopContract) (s : RosTeleop Context)
    (fields : List (String × Json)) (context : Context) (receivedAt : Option ℚ)
    (path : PathLookups) (answers : Answers) : RosTeleop Context × List (RosTeleopNote Context) :=
  if s.session.commandId.isSome then
    s.withSession (s.session.start contract (.obj fields) context receivedAt true answers answers)
  else
    let s := { s with writers := pathIdentity path }
    match s.writers with
    | none =>
      (s, [.session (.ack ((Json.lookup "command_id" fields).getD (.str "")) false
        (some "Waiting for the sole manual mux/smoother path.") .start)])
    | some _ =>
      let s := { s with drain := fun _ => none, drainSource := fun _ => 0 }
      s.withSession (s.session.start contract (.obj fields) context receivedAt true answers answers)

/-- The emit is the exception that ends its method. -/
def raises : Emit Context → Bool
  | .raised => true
  | _ => false

/-- A topic has carried only zeros for long enough, and was observed just now. -/
def drained (now : ℚ) : Option DrainEntry → Bool
  | some ⟨some since, last⟩ =>
    decide (hardwareTimeoutS ≤ now - since) && decide (0 ≤ now - last) &&
      decide (now - last ≤ hardwareTimeoutS)
  | _ => false

/-- `tick`, from `session.tick` on. -/
def tick [DecidableEq Context] (contract : TeleopContract) (s : RosTeleop Context) (now : ℚ)
    (context : Context) (answers : Answers) (publishRaises : Bool) (confirmContext : Context)
    (confirming : Answers) : RosTeleop Context × List (RosTeleopNote Context) :=
  let result := s.session.tick contract context answers
  let (s, ticked) := s.withSession result
  if result.2.any raises || publishRaises then (s, ticked)
  else if s.session.commandId.isSome && !s.session.acknowledged &&
      drained now (s.drain .cmdVelOut) && drained now (s.drain .cmdVel) then
    let (s, confirmed) :=
      s.withSession (s.session.confirmStart contract confirmContext confirming)
    (s, ticked ++ .confirming now :: confirmed)
  else (s, ticked)

/-- One callback. -/
def step [DecidableEq Context] (contract : TeleopContract) (s : RosTeleop Context) :
    RosTeleopCall Context → RosTeleop Context × List (RosTeleopNote Context)
  | .buffer topic sample zeroRaises =>
    let (s, notes) := s.onBuffer topic sample zeroRaises
    (s, .observed topic sample :: notes)
  | .handleStart fields context receivedAt path answers =>
    s.handleStart contract fields context receivedAt path answers
  | .frame data context receivedAt answers =>
    s.withSession (s.session.frame contract data context receivedAt answers)
  | .endSession reason outcome zeroRaises =>
    s.withSession (s.session.endSession reason outcome zeroRaises)
  | .tick now context answers publishRaises confirmContext confirming =>
    s.tick contract now context answers publishRaises confirmContext confirming

end RosTeleop

/-- The bridge's manual drive as a machine over callbacks. -/
def rosTeleop (Context : Type) [DecidableEq Context] (contract : TeleopContract) :
    Machine (RosTeleop Context) (RosTeleopCall Context) (RosTeleopNote Context) where
  step := RosTeleop.step contract

/-! ### Sessions that are not acknowledged yet -/

namespace TeleopSession

/-- The session is open and was not confirmed. -/
def Preparing (s : TeleopSession Context) : Prop :=
  s.commandId.isSome = true ∧ s.acknowledged = false

theorem not_preparing_endSession {s : TeleopSession Context} {reason : String}
    {outcome : EndOutcome} {zeroRaises : Bool} :
    ¬(s.endSession reason outcome zeroRaises).1.Preparing := by
  rintro ⟨howner, -⟩
  unfold endSession at howner
  cases hid : s.commandId <;> simp [hid] at howner

theorem not_preparing_endAfter {s : TeleopSession Context} {emits : List (Emit Context)}
    {reason : String} {outcome : EndOutcome} {zeroRaises value : Bool} :
    ¬(s.endAfter emits reason outcome zeroRaises value).1.Preparing :=
  not_preparing_endSession

theorem not_preparing_of_acknowledged {s : TeleopSession Context} (h : s.acknowledged = true) :
    ¬s.Preparing := by
  rintro ⟨-, hnot⟩
  rw [h] at hnot
  cases hnot

theorem not_preparing_forward (contract : TeleopContract) {s : TeleopSession Context}
    (hacknowledged : s.acknowledged = true) {linear angular now : ℚ}
    {emits : List (Emit Context)} {answers : Answers} :
    ¬(s.forward contract linear angular now emits answers).1.Preparing := by
  unfold forward
  dsimp only
  split
  · exact not_preparing_endAfter
  · split
    · exact not_preparing_endAfter
    · split
      · exact not_preparing_endAfter
      · split
        · exact not_preparing_endAfter
        · split
          · exact not_preparing_endAfter
          · exact not_preparing_of_acknowledged hacknowledged

theorem not_preparing_acceptSample (contract : TeleopContract) {s : TeleopSession Context}
    (hacknowledged : s.acknowledged = true) {seq : Int} {linear angular : ℚ} {deadman : Bool}
    {receivedAt : ℚ} {answers : Answers} :
    ¬(s.acceptSample contract seq linear angular deadman receivedAt answers).1.Preparing := by
  unfold acceptSample
  dsimp only
  split
  · exact not_preparing_of_acknowledged hacknowledged
  · split
    · exact not_preparing_endAfter
    · split
      · exact not_preparing_endAfter
      · split
        · exact not_preparing_endAfter
        · split
          · exact not_preparing_endAfter
          · apply not_preparing_forward contract
            exact hacknowledged

variable [DecidableEq Context]

/-- A frame leaves a session alone that is not acknowledged. -/
theorem preparing_of_frame {contract : TeleopContract} {s : TeleopSession Context} {data : Json}
    {context : Context} {receivedAt : ℚ} {answers : Answers}
    (h : (s.frame contract data context receivedAt answers).1.Preparing) : s.Preparing := by
  by_contra hnot
  unfold frame at h
  split at h
  · split at h
    · exact hnot h
    · split at h
      · exact hnot h
      · split at h
        · exact hnot h
        · rename_i hacknowledged
          have hacknowledged : s.acknowledged = true := by simpa using hacknowledged
          split at h
          · exact not_preparing_endAfter h
          · split at h
            · exact not_preparing_endAfter h
            · split at h
              · exact hnot h
              · exact not_preparing_endAfter h
              · exact not_preparing_acceptSample contract hacknowledged h
  · exact not_preparing_endAfter h

theorem preparing_of_tick {contract : TeleopContract} {s : TeleopSession Context}
    {context : Context} {answers : Answers}
    (h : (s.tick contract context answers).1.Preparing) : s.Preparing := by
  by_contra hnot
  unfold tick at h
  dsimp only at h
  split at h
  · exact hnot h
  · split at h
    · exact not_preparing_endSession h
    · split at h
      · exact not_preparing_endSession h
      · split at h
        · exact not_preparing_endSession h
        · split at h
          · exact not_preparing_endSession h
          · split at h
            · split at h
              · split at h
                · exact not_preparing_endSession h
                · exact hnot h
              · exact hnot h
            · split at h
              · split at h
                · exact not_preparing_endSession h
                · exact hnot h
              · exact hnot h

theorem preparing_of_confirmStart {contract : TeleopContract} {s : TeleopSession Context}
    {context : Context} {answers : Answers}
    (h : (s.confirmStart contract context answers).1.Preparing) : s.Preparing := by
  by_contra hnot
  unfold confirmStart at h
  dsimp only at h
  split at h
  · exact hnot h
  · split at h
    · exact hnot h
    · split at h
      · exact not_preparing_endAfter h
      · split at h
        · exact not_preparing_endAfter h
        · split at h
          · exact not_preparing_endAfter h
          · split at h
            · exact not_preparing_endAfter h
            · exact not_preparing_of_acknowledged rfl h

/-- A start leaves an open session alone. -/
theorem start_of_isSome {contract : TeleopContract} {s : TeleopSession Context}
    (howner : s.commandId.isSome = true) {data : Json} {context : Context}
    {receivedAt : Option ℚ} {deferAck : Bool} {answers confirming : Answers} :
    (s.start contract data context receivedAt deferAck answers confirming).1 = s := by
  unfold start
  split
  · dsimp only
    split
    · rfl
    · rw [if_pos howner]
      rfl
  · rfl

end TeleopSession

/-! ### What a tick that confirms has seen -/

namespace RosTeleop

/-- The sample that a note records for a topic. -/
def sampleOf (topic : BufferTopic) : RosTeleopNote Context → Option (Option BufferSample)
  | .observed observed sample => if observed = topic then some sample else none
  | _ => none

/-- What the callback of a topic was called with. -/
def samples (topic : BufferTopic) (log : List (RosTeleopNote Context)) :
    List (Option BufferSample) :=
  log.filterMap (sampleOf topic)

/-- Samples of a topic that carry nothing but zeros, each newer than the one before. -/
structure Clean (topic : BufferTopic) (run : List BufferSample) : Prop where
  attributed : ∀ sample ∈ run, sample.attributed topic = true
  zero : ∀ sample ∈ run, sample.isZero = true
  stamps : run.Pairwise fun earlier later => earlier.stamp < later.stamp

/-- Since a zero at least half a second ago the topic has carried nothing but zeros, and the
    newest is at most half a second old. -/
def Drained (now : ℚ) (topic : BufferTopic) (log : List (RosTeleopNote Context)) : Prop :=
  ∃ earlier run first newest, samples topic log = earlier ++ run.map some ∧ Clean topic run ∧
    run.head? = some first ∧ first.now + hardwareTimeoutS ≤ now ∧
    run.getLast? = some newest ∧ newest.now ≤ now ∧ now ≤ newest.now + hardwareTimeoutS

/-- The entry of a topic is true of the log: it carries only zeros since then. -/
def Observed (topic : BufferTopic) (log : List (RosTeleopNote Context)) (since last : ℚ)
    (source : Int) : Prop :=
  ∃ earlier run first newest, samples topic log = earlier ++ run.map some ∧ Clean topic run ∧
    run.head? = some first ∧ first.now = since ∧
    run.getLast? = some newest ∧ newest.now = last ∧ newest.stamp = source

/-- While a session prepares, the entries are true of the log. -/
def Watched (log : List (RosTeleopNote Context)) (s : RosTeleop Context) : Prop :=
  s.session.Preparing → ∀ topic since last, s.drain topic = some ⟨some since, last⟩ →
    Observed topic log since last (s.drainSource topic)

variable {log : List (RosTeleopNote Context)} {s : RosTeleop Context} {topic : BufferTopic}

theorem samples_append (topic : BufferTopic) (log notes : List (RosTeleopNote Context)) :
    samples topic (log ++ notes) = samples topic log ++ samples topic notes :=
  List.filterMap_append

@[simp] theorem samples_session (emits : List (Emit Context)) :
    samples topic (emits.map RosTeleopNote.session) = [] := by
  rw [samples, List.filterMap_map, List.filterMap_eq_nil_iff]
  intro emit _
  rfl

@[simp] theorem samples_confirming (now : ℚ) (notes : List (RosTeleopNote Context)) :
    samples topic (.confirming now :: notes) = samples topic notes := rfl

@[simp] theorem samples_observed (sample : Option BufferSample)
    (notes : List (RosTeleopNote Context)) :
    samples topic (.observed topic sample :: notes) = sample :: samples topic notes := by
  simp [samples, sampleOf]

theorem samples_observed_of_ne {other : BufferTopic} (hne : other ≠ topic)
    (sample : Option BufferSample) (notes : List (RosTeleopNote Context)) :
    samples topic (.observed other sample :: notes) = samples topic notes := by
  simp [samples, sampleOf, hne]

theorem Observed.of_samples {since last : ℚ} {source : Int}
    {notes : List (RosTeleopNote Context)} (h : Observed topic log since last source)
    (hnotes : samples topic notes = []) : Observed topic (log ++ notes) since last source := by
  rwa [Observed, samples_append, hnotes, List.append_nil]

/-- Every note of the log is kept where a method of the session ran. -/
theorem Watched.withSession {result : TeleopSession Context × List (Emit Context)}
    (h : Watched log s) (hpreparing : result.1.Preparing → s.session.Preparing) :
    Watched (log ++ (s.withSession result).2) (s.withSession result).1 := by
  intro hafter topic since last hentry
  exact (h (hpreparing hafter) topic since last hentry).of_samples (samples_session _)

/-- A zero sample begins a run or continues the one of the entry. -/
theorem Observed.zero {sample : BufferSample} (hattributed : sample.attributed topic = true)
    (hzero : sample.isZero = true) {entry : Option DrainEntry} {source : Int}
    (hsource : source < sample.stamp)
    (h : ∀ since last, entry = some ⟨some since, last⟩ → Observed topic log since last source) :
    Observed topic (log ++ [.observed topic (some sample)])
      ((entry.bind DrainEntry.since).getD sample.now) sample.now sample.stamp := by
  have hlog : samples topic (log ++ [.observed topic (some sample)]) =
      samples topic log ++ [some sample] := by
    rw [samples_append, samples_observed]
    rfl
  by_cases hrun : ∃ since last, entry = some ⟨some since, last⟩
  · obtain ⟨since, last, rfl⟩ := hrun
    obtain ⟨earlier, run, first, newest, hsamples, hclean, hfirst, hsince, hnewest, -, hstamp⟩ :=
      h since last rfl
    refine ⟨earlier, run ++ [sample], first, sample, ?_, ⟨?_, ?_, ?_⟩, ?_, hsince, ?_, rfl, rfl⟩
    · rw [hlog, hsamples]
      simp
    · intro other hother
      rcases List.mem_append.mp hother with hmem | hmem
      · exact hclean.attributed other hmem
      · rwa [List.mem_singleton.mp hmem]
    · intro other hother
      rcases List.mem_append.mp hother with hmem | hmem
      · exact hclean.zero other hmem
      · rwa [List.mem_singleton.mp hmem]
    · refine List.pairwise_append.mpr ⟨hclean.stamps, List.pairwise_singleton _ _, ?_⟩
      intro other hmem late hlate
      rw [List.mem_singleton.mp hlate]
      -- The newest sample so far is the last of the run.
      obtain ⟨front, rfl⟩ := List.getLast?_eq_some_iff.mp hnewest
      rcases List.mem_append.mp hmem with hfront | hlast
      · have hlt := (List.pairwise_append.mp hclean.stamps).2.2 other hfront newest
          (List.mem_singleton_self newest)
        omega
      · rw [List.mem_singleton.mp hlast]
        omega
    · rw [List.head?_append, hfirst]
      rfl
    · exact List.getLast?_concat
  · have hsince : entry.bind DrainEntry.since = none := by
      rcases entry with _ | ⟨_ | since, last⟩
      · rfl
      · rfl
      · exact absurd ⟨since, last, rfl⟩ hrun
    rw [hsince]
    refine ⟨samples topic log, [sample], sample, sample, hlog, ⟨?_, ?_, ?_⟩, rfl, rfl, rfl, rfl,
      rfl⟩
    · intro other hother
      rwa [List.mem_singleton.mp hother]
    · intro other hother
      rwa [List.mem_singleton.mp hother]
    · exact List.pairwise_singleton _ _

/-- **Buffer lemma.**  A callback keeps the entries true of the log. -/
theorem Watched.onBuffer (h : Watched log s) (sample : Option BufferSample) (zeroRaises : Bool) :
    Watched (log ++ .observed topic sample :: (s.onBuffer topic sample zeroRaises).2)
      (s.onBuffer topic sample zeroRaises).1 := by
  have hrefused : ∀ notes (t : RosTeleop Context), Watched notes (t.refuseBuffer zeroRaises).1 :=
    fun notes t hafter => absurd hafter TeleopSession.not_preparing_endSession
  unfold RosTeleop.onBuffer
  split
  · rename_i hidle
    intro hafter
    obtain ⟨howner, -⟩ : s.session.Preparing := hafter
    rw [Option.isNone_iff_eq_none.mp hidle] at howner
    cases howner
  · split
    · exact hrefused _ s
    · rename_i sample
      split
      · rename_i hvalid
        obtain ⟨hattributed, hnewer⟩ := (Bool.and_eq_true _ _).mp hvalid
        dsimp only
        split
        · intro hafter other since last hentry
          by_cases hother : other = topic
          · subst hother
            simp only [Function.update_self, drainAfter] at hentry ⊢
            split at hentry
            · rename_i hzero
              cases hentry
              exact Observed.zero hattributed hzero (of_decide_eq_true hnewer)
                (h hafter other)
            · rw [if_pos hafter.2] at hentry
              cases hentry
          · simp only [Function.update_of_ne hother] at hentry ⊢
            refine (h hafter other since last hentry).of_samples ?_
            rw [samples_observed_of_ne (Ne.symm hother)]
            rfl
        · exact hrefused _ _
      · exact hrefused _ s

/-- A start that opens a session has cleared the entries. -/
theorem Watched.handleStart [DecidableEq Context] {contract : TeleopContract} (h : Watched log s)
    (fields : List (String × Json)) (context : Context) (receivedAt : Option ℚ)
    (path : PathLookups) (answers : Answers) :
    Watched (log ++ (s.handleStart contract fields context receivedAt path answers).2)
      (s.handleStart contract fields context receivedAt path answers).1 := by
  unfold RosTeleop.handleStart
  split
  · rename_i howner
    apply h.withSession
    rw [TeleopSession.start_of_isSome howner]
    exact id
  · rename_i hidle
    dsimp only
    split
    · intro hafter
      exact absurd hafter.1 hidle
    · intro _ topic since last hentry
      cases hentry

/-- What `drained` asks of an entry. -/
theorem drained_iff {now : ℚ} {entry : Option DrainEntry} :
    drained now entry = true ↔ ∃ since last, entry = some ⟨some since, last⟩ ∧
      hardwareTimeoutS ≤ now - since ∧ 0 ≤ now - last ∧ now - last ≤ hardwareTimeoutS := by
  rcases entry with _ | ⟨_ | since, last⟩ <;> simp [drained, and_assoc]

theorem Observed.drained {now since last : ℚ} {source : Int}
    (h : Observed topic log since last source) (hsince : hardwareTimeoutS ≤ now - since)
    (hnow : 0 ≤ now - last) (hlast : now - last ≤ hardwareTimeoutS) : Drained now topic log := by
  obtain ⟨earlier, run, first, newest, hsamples, hclean, hfirst, rfl, hnewest, rfl, -⟩ := h
  refine ⟨earlier, run, first, newest, hsamples, hclean, hfirst, ?_, hnewest, ?_, ?_⟩
  · linarith
  · linarith
  · linarith

/-- Every confirmation of the log came after both topics had drained. -/
def ConfirmedDrained (log : List (RosTeleopNote Context)) : Prop :=
  ∀ before now after, log = before ++ .confirming now :: after →
    ∀ topic, Drained now topic before

/-- The notes of a step that confirms nothing. -/
theorem ConfirmedDrained.append (h : ConfirmedDrained log)
    {notes : List (RosTeleopNote Context)} (hnotes : ∀ now, .confirming now ∉ notes) :
    ConfirmedDrained (log ++ notes) := by
  intro before now after hcut
  rcases List.append_eq_append_iff.mp hcut with ⟨middle, -, hmiddle⟩ | ⟨middle, hmiddle, hrest⟩
  · refine absurd ?_ (hnotes now)
    rw [hmiddle]
    simp
  · cases middle with
    | nil =>
      refine absurd ?_ (hnotes now)
      rw [List.nil_append] at hrest
      rw [← hrest]
      exact List.mem_cons_self
    | cons note rest =>
      rw [List.cons_append, List.cons.injEq] at hrest
      obtain ⟨rfl, -⟩ := hrest
      exact h before now rest hmiddle

theorem not_confirming_session (emits : List (Emit Context)) (now : ℚ) :
    RosTeleopNote.confirming now ∉ emits.map RosTeleopNote.session := by
  simp

theorem not_confirming_onBuffer (sample : Option BufferSample) (zeroRaises : Bool) (now : ℚ) :
    .confirming now ∉ (s.onBuffer topic sample zeroRaises).2 := by
  unfold onBuffer
  dsimp only
  split
  · simp
  · split
    · exact not_confirming_session _ now
    · split
      · split
        · simp
        · exact not_confirming_session _ now
      · exact not_confirming_session _ now

theorem not_confirming_handleStart [DecidableEq Context] {contract : TeleopContract}
    (fields : List (String × Json)) (context : Context) (receivedAt : Option ℚ)
    (path : PathLookups) (answers : Answers) (now : ℚ) :
    .confirming now ∉ (s.handleStart contract fields context receivedAt path answers).2 := by
  unfold handleStart
  dsimp only
  split
  · exact not_confirming_session _ now
  · split
    · simp
    · exact not_confirming_session _ now

theorem ConfirmedDrained.confirming (h : ConfirmedDrained log) {now : ℚ}
    (hnow : ∀ topic, Drained now topic log) : ConfirmedDrained (log ++ [.confirming now]) := by
  intro before confirmed after hcut
  rcases Machine.cut_concat hcut with ⟨rfl, hconfirmed, -⟩ | ⟨rest, -, hlog⟩
  · cases hconfirmed
    exact hnow
  · exact h before confirmed rest hlog

/-- The log of a run with its last state. -/
structure Barrier (log : List (RosTeleopNote Context)) (s : RosTeleop Context) : Prop where
  watched : Watched log s
  confirmed : ConfirmedDrained log

theorem Barrier.withSession (h : Barrier log s)
    {result : TeleopSession Context × List (Emit Context)}
    (hpreparing : result.1.Preparing → s.session.Preparing) :
    Barrier (log ++ (s.withSession result).2) (s.withSession result).1 :=
  ⟨h.watched.withSession hpreparing, h.confirmed.append (not_confirming_session _)⟩

/-- **Tick lemma.**  A tick that confirms finds both entries old and fresh enough, and they
    are true of the log. -/
theorem Barrier.tick [DecidableEq Context] {contract : TeleopContract} (h : Barrier log s)
    (now : ℚ) (context : Context) (answers : Answers) (publishRaises : Bool)
    (confirmContext : Context) (confirming : Answers) :
    Barrier
      (log ++ (s.tick contract now context answers publishRaises confirmContext confirming).2)
      (s.tick contract now context answers publishRaises confirmContext confirming).1 := by
  have hticked : Barrier (log ++ (s.withSession (s.session.tick contract context answers)).2)
      (s.withSession (s.session.tick contract context answers)).1 :=
    h.withSession TeleopSession.preparing_of_tick
  unfold RosTeleop.tick
  dsimp only
  split
  · exact hticked
  · split
    · rename_i hdrained
      simp only [Bool.and_eq_true, Bool.not_eq_true'] at hdrained
      obtain ⟨⟨⟨howner, hpending⟩, hout⟩, hvel⟩ := hdrained
      generalize s.withSession (s.session.tick contract context answers) = ticked at *
      have hall : ∀ topic, Drained now topic (log ++ ticked.2) := by
        intro topic
        have hentry : drained now (ticked.1.drain topic) = true := by
          cases topic with
          | cmdVelOut => exact hout
          | cmdVel => exact hvel
        obtain ⟨since, last, hsome, hsince, hnow, hlast⟩ := drained_iff.mp hentry
        exact (hticked.watched ⟨howner, hpending⟩ topic since last hsome).drained hsince hnow
          hlast
      have hconfirming : Barrier (log ++ ticked.2 ++ [.confirming now]) ticked.1 := by
        refine ⟨?_, hticked.confirmed.confirming hall⟩
        intro hafter topic since last hsome
        exact (hticked.watched hafter topic since last hsome).of_samples rfl
      have hconfirmed :
          Barrier (log ++ ticked.2 ++ [.confirming now] ++ (ticked.1.withSession
            (ticked.1.session.confirmStart contract confirmContext confirming)).2)
            (ticked.1.withSession
              (ticked.1.session.confirmStart contract confirmContext confirming)).1 :=
        hconfirming.withSession TeleopSession.preparing_of_confirmStart
      simpa using hconfirmed
    · exact hticked

variable [DecidableEq Context] {contract : TeleopContract}

theorem Barrier.step (h : Barrier log s) (call : RosTeleopCall Context) :
    Barrier (log ++ (s.step contract call).2) (s.step contract call).1 := by
  cases call with
  | buffer topic sample zeroRaises =>
    refine ⟨h.watched.onBuffer sample zeroRaises, h.confirmed.append ?_⟩
    intro now hmem
    rcases List.mem_cons.mp hmem with hcases | hrest
    · cases hcases
    · exact not_confirming_onBuffer sample zeroRaises now hrest
  | handleStart fields context receivedAt path answers =>
    exact ⟨h.watched.handleStart fields context receivedAt path answers,
      h.confirmed.append (not_confirming_handleStart fields context receivedAt path answers)⟩
  | frame data context receivedAt answers => exact h.withSession TeleopSession.preparing_of_frame
  | endSession reason outcome zeroRaises =>
    exact h.withSession fun hafter => absurd hafter TeleopSession.not_preparing_endSession
  | tick now context answers publishRaises confirmContext confirming =>
    exact h.tick now context answers publishRaises confirmContext confirming

/-- **Run lemma.** -/
theorem barrier_run (calls : List (RosTeleopCall Context)) :
    Barrier (((rosTeleop Context contract).trace {} calls).flatMap Prod.snd)
      ((rosTeleop Context contract).run {} calls) := by
  refine (rosTeleop Context contract).history_invariant
    (fun history s => Barrier (history.flatMap Prod.snd) s) ?_ ?_
    ((rosTeleop Context contract).along_true {} calls)
  · intro history s call _ h
    rw [List.flatMap_append, List.flatMap_cons, List.flatMap_nil, List.append_nil]
    exact h.step call
  · refine ⟨fun hpreparing => ?_, ?_⟩
    · cases hpreparing.1
    · intro before now after hcut
      simp at hcut

/-- A zero of the publisher of a topic, observed `now` seconds after the start. -/
def zeroSample (topic : BufferTopic) (now : ℕ) : BufferSample where
  endpoints := [⟨topic.publisher, "/", "geometry_msgs/msg/Twist", []⟩]
  stamp := now + 1
  clock := now + 1
  message := ⟨⟨.finite 0, .finite 0, .finite 0⟩, ⟨.finite 0, .finite 0, .finite 0⟩⟩
  now := now

/-- A start on the sole path, zeros on both topics over a second, and a tick. -/
def drainedStart : List (RosTeleopCall Nat) :=
  let sole := fun publisher => some [⟨publisher, "/", "geometry_msgs/msg/Twist", []⟩]
  [.handleStart
      [("operator_authorized", .bool true),
        ("command_id", .str "8b1a9953-c461-4d6c-a4a4-4f5f8d9e3f0a")] 0 (some 0)
      ⟨sole "patrolbot_web_bridge", sole "cmd_vel_mux", sole "teleop_velocity_smoother"⟩ calm,
    .buffer .cmdVelOut (some (zeroSample .cmdVelOut 0)) false,
    .buffer .cmdVel (some (zeroSample .cmdVel 0)) false,
    .buffer .cmdVelOut (some (zeroSample .cmdVelOut 1)) false,
    .buffer .cmdVel (some (zeroSample .cmdVel 1)) false,
    .tick 1 0 calm false 0 calm]

example : ((rosTeleop Nat readContract).run {} drainedStart).session.acknowledged = true := by
  decide +kernel

end RosTeleop

end PatrolBot
