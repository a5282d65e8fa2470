import PatrolBot.TeleopSession

/-!
# The life of a manual-drive session

Each id lives at most once: it is opened, perhaps acknowledged, closed, and the
closing is answered by one reply.  `Life.next` is that automaton over the emits
of a run; a start that is refused answers its own request and does not touch
the life of the id it names.  The session's fields determine where each id
stands (`TeleopSession.lifeOf`), and every method moves the automaton to where
the fields it leaves behind say it should be.
-/

namespace PatrolBot

variable {Context : Type}

/-- Where the session of one id stands. -/
inductive Life where
  | unopened
  | opened (acknowledged : Bool)
  | closing (acknowledged : Bool)
  | closed
deriving DecidableEq

namespace Life

/-- The move of `opened`: from nowhere else than `unopened`. -/
@[simp] def onOpened : Life → Option Life
  | .unopened => some (.opened false)
  | _ => none

/-- The move of `closed`. -/
@[simp] def onClosed : Life → Option Life
  | .opened acknowledged => some (.closing acknowledged)
  | _ => none

/-- The move of `result`: it answers the closing of an acknowledged session. -/
@[simp] def onResult : Life → Option Life
  | .closing true => some .closed
  | _ => none

/-- The move of an ack.  The refusal of a start is no part of the life of the
    id it names. -/
@[simp] def onAck (site : AckSite) (accepted : Bool) (life : Life) : Option Life :=
  match site, accepted, life with
  | .start, false, life => some life
  | .confirmStart, true, .opened false => some (.opened true)
  | .endSession, false, .closing false => some .closed
  | _, _, _ => none

/-- The ack names `id`.  A refusal repeats the request's `command_id`, whatever
    it was. -/
@[simp] def addresses (commandId : Json) (id : String) : Bool :=
  match commandId with
  | .str i => decide (i = id)
  | _ => false

/-- One emit, seen by the id `id`.  There is no move for an emit the id's life
    has no room for. -/
def next (id : String) (life : Life) : Emit Context → Option Life
  | .opened i _ _ => if i = id then life.onOpened else some life
  | .closed i => if i = id then life.onClosed else some life
  | .result i _ _ => if i = id then life.onResult else some life
  | .ack commandId accepted _ site =>
    if addresses commandId id then life.onAck site accepted else some life
  | _ => some life

def after (id : String) (life : Life) : List (Emit Context) → Option Life
  | [] => some life
  | e :: emits => (life.next id e).bind fun life => after id life emits

@[simp] theorem after_nil (id : String) (life : Life) :
    life.after id ([] : List (Emit Context)) = some life := rfl

@[simp] theorem after_cons (id : String) (life : Life) (e : Emit Context)
    (emits : List (Emit Context)) :
    life.after id (e :: emits) = (life.next id e).bind fun life => after id life emits := rfl

@[simp] theorem after_append (id : String) (life : Life) (emits more : List (Emit Context)) :
    life.after id (emits ++ more) = (life.after id emits).bind fun life => after id life more := by
  induction emits generalizing life with
  | nil => rfl
  | cons e emits ih =>
    simp only [List.cons_append, after_cons, Option.bind_assoc, ih]

end Life

namespace TeleopSession

/-- Where an id stands, read off the session's fields. -/
def lifeOf (s : TeleopSession Context) (id : String) : Life :=
  if s.commandId = some id then .opened s.acknowledged
  else if id ∈ s.seen then .closed
  else .unopened

/-- The owner is remembered: closed ids cannot reopen. -/
def OwnerSeen (s : TeleopSession Context) : Prop :=
  ∀ id, s.commandId = some id → id ∈ s.seen

/-- A call that starts where `life` says ends where its result's fields say,
    for every id. -/
structure Follows (life : String → Life)
    (result : TeleopSession Context × List (Emit Context)) : Prop where
  life : ∀ id, (life id).after id result.2 = some (result.1.lifeOf id)
  seen : result.1.OwnerSeen

theorem follows_endSession {s : TeleopSession Context} (hseen : s.OwnerSeen) (reason : String)
    (outcome : EndOutcome) (zeroRaises : Bool) :
    Follows s.lifeOf (s.endSession reason outcome zeroRaises) := by
  refine ⟨fun id => ?_, ?_⟩
  · cases howner : s.commandId with
    | none => simp [endSession, howner, Life.next, lifeOf]
    | some owner =>
      by_cases hid : owner = id
      · subst hid
        cases hack : s.acknowledged <;>
          simp [endSession, howner, hack, Life.next, lifeOf, hseen owner howner]
      · cases hack : s.acknowledged <;> simp [endSession, howner, hack, Life.next, lifeOf, hid]
  · cases howner : s.commandId <;> simp [endSession, howner, OwnerSeen]

/-- Emits no id's life takes notice of. -/
def Unnoticed (emits : List (Emit Context)) : Prop :=
  ∀ id (life : Life), life.after id emits = some life

theorem follows_endAfter {s : TeleopSession Context} (hseen : s.OwnerSeen)
    {emits : List (Emit Context)} (hemits : Unnoticed emits) (reason : String)
    (outcome : EndOutcome) (zeroRaises value : Bool) :
    Follows s.lifeOf (s.endAfter emits reason outcome zeroRaises value) := by
  have h := follows_endSession hseen reason outcome zeroRaises
  refine ⟨fun id => ?_, h.seen⟩
  simp only [endAfter, Life.after_append, hemits id, Option.bind_some, h.life id, Life.after_cons,
    Life.after_nil, Life.next]

theorem follows_refuse {s : TeleopSession Context} (hseen : s.OwnerSeen)
    {emits : List (Emit Context)} (hemits : Unnoticed emits) (commandId : Json)
    (reason : String) : Follows s.lifeOf (s.refuse emits commandId reason) := by
  refine ⟨fun id => ?_, hseen⟩
  have hack : (s.lifeOf id).onAck .start false = some (s.lifeOf id) := by
    cases s.lifeOf id <;> rfl
  simp only [refuse, Life.after_append, hemits id, Option.bind_some, Life.after_cons, Life.next,
    hack, ite_self, Life.after_nil]

section Methods

variable [DecidableEq Context] (contract : TeleopContract)

theorem follows_confirmStart {s : TeleopSession Context} (hseen : s.OwnerSeen)
    (context : Context) (answers : Answers) :
    Follows s.lifeOf (s.confirmStart contract context answers) := by
  have hasked : Unnoticed [(.safety answers.safety : Emit Context)] := fun _ _ => rfl
  unfold confirmStart
  split
  · exact ⟨fun _ => rfl, hseen⟩
  · rename_i owner howner
    split
    · exact ⟨fun _ => rfl, hseen⟩
    · rename_i hack
      simp only
      split
      · exact follows_endAfter hseen hasked _ _ _ _
      · split
        · exact follows_endAfter hseen hasked _ _ _ _
        · split
          · exact follows_endAfter hseen (fun _ _ => rfl) _ _ _ _
          · split
            · exact follows_endAfter hseen (fun _ _ => rfl) _ _ _ _
            · refine ⟨fun id => ?_, hseen⟩
              by_cases hid : owner = id
              · simp [Life.next, lifeOf, howner, hack, hid]
              · simp [Life.next, lifeOf, howner, hid]

theorem follows_openSession {s : TeleopSession Context} (hidle : s.commandId = none)
    {id : String} (hnew : id ∉ s.seen) (context : Context) (signature : PolicySignature)
    (deferAck : Bool) {emits : List (Emit Context)} (hemits : Unnoticed emits)
    (answers confirming : Answers) :
    Follows s.lifeOf
      (s.openSession contract id context signature deferAck emits answers confirming) := by
  let opened : TeleopSession Context := { s with
    seen := insert id s.seen, commandId := some id, context := some context, sequence := -1,
    lastReceived := some (answers.clock 1), preparingAt := some (answers.clock 2),
    acknowledged := false, policySignature := some signature }
  have hseen : opened.OwnerSeen := by
    intro owner howner
    simp only [opened, Option.some.injEq] at howner
    simp [opened, howner]
  have hopen : ∀ i, (s.lifeOf i).after i (emits ++ [.opened id context signature,
      .publish 0 0 false]) = some (opened.lifeOf i) := by
    intro i
    simp only [Life.after_append, hemits i, Option.bind_some, Life.after_cons, Life.after_nil]
    by_cases hid : id = i
    · subst hid
      simp [Life.next, lifeOf, hidle, hnew, opened]
    · have hid' : i ≠ id := fun h => hid h.symm
      simp [Life.next, lifeOf, hidle, opened, hid, hid']
  unfold openSession
  simp only
  split
  · have hnothing : Unnoticed ([] : List (Emit Context)) := fun _ _ => rfl
    have hended := follows_endAfter hseen hnothing
      "Manual zero publication failed; physical stop is not confirmed." .failed
      answers.zeroRaises false
    refine ⟨fun i => ?_, hended.seen⟩
    have hi := hended.life i
    simp only [endAfter, List.nil_append] at hi ⊢
    rw [List.append_assoc, Life.after_append, hopen i]
    exact hi
  · split
    · refine ⟨fun i => ?_, hseen⟩
      rw [Life.after_append, hopen i]
      rfl
    · have hconfirmed := follows_confirmStart contract hseen context confirming
      refine ⟨fun i => ?_, hconfirmed.seen⟩
      simp only
      rw [List.append_assoc, Life.after_append, hopen i]
      simp only [Option.bind_some]
      rw [Life.after_append, hconfirmed.life i]
      rfl

theorem follows_start {s : TeleopSession Context} (hseen : s.OwnerSeen) (data : Json)
    (context : Context) (receivedAt : Option ℚ) (deferAck : Bool)
    (answers confirming : Answers) :
    Follows s.lifeOf (s.start contract data context receivedAt deferAck answers confirming) := by
  have hnothing : Unnoticed ([] : List (Emit Context)) := fun _ _ => rfl
  unfold start
  split
  · simp only
    split
    · exact follows_refuse hseen hnothing _ _
    · split
      · exact follows_refuse hseen hnothing _ _
      · rename_i hactive
        have hidle : s.commandId = none := by simpa using hactive
        split
        · exact follows_refuse hseen hnothing _ _
        · rename_i hnew
          split
          · exact follows_refuse hseen hnothing _ _
          · split
            · exact follows_refuse hseen (fun _ _ => rfl) _ _
            · split
              · exact follows_refuse hseen (fun _ _ => rfl) _ _
              · rename_i policy _
                split
                · exact follows_refuse (s := { s with policySignature := some policy.signature })
                    hseen (fun _ _ => rfl) _ _
                · exact follows_openSession
                    (s := { s with policySignature := some policy.signature }) contract hidle hnew
                    _ _ _ (fun _ _ => rfl) _ _
  · exact ⟨fun _ => rfl, hseen⟩

omit [DecidableEq Context] in
theorem follows_forward {s : TeleopSession Context} (hseen : s.OwnerSeen)
    (linear angular now : ℚ) {emits : List (Emit Context)} (hemits : Unnoticed emits)
    (answers : Answers) :
    Follows s.lifeOf (s.forward contract linear angular now emits answers) := by
  have hmore : ∀ more, Unnoticed more → Unnoticed (emits ++ more) := by
    intro more hmore id life
    rw [Life.after_append, hemits id life]
    exact hmore id life
  unfold forward
  simp only [List.append_assoc, List.cons_append, List.nil_append]
  split
  · exact follows_endAfter hseen (hmore _ fun _ _ => rfl) _ _ _ _
  · split
    · exact follows_endAfter hseen (hmore _ fun _ _ => rfl) _ _ _ _
    · split
      · exact follows_endAfter hseen (hmore _ fun _ _ => rfl) _ _ _ _
      · split
        · exact follows_endAfter hseen (hmore _ fun _ _ => rfl) _ _ _ _
        · split
          · exact follows_endAfter (s := { s with lastReceived := some now }) hseen
              (hmore _ fun _ _ => rfl) _ _ _ _
          · exact ⟨fun id => hmore _ (fun _ _ => rfl) id _, hseen⟩

omit [DecidableEq Context] in
theorem follows_acceptSample {s : TeleopSession Context} (hseen : s.OwnerSeen) (seq : Int)
    (linear angular : ℚ) (deadman : Bool) (receivedAt : ℚ) (answers : Answers) :
    Follows s.lifeOf
      (s.acceptSample contract seq linear angular deadman receivedAt answers) := by
  unfold acceptSample
  split
  · exact ⟨fun _ => rfl, hseen⟩
  · simp only
    split
    · exact follows_endAfter hseen (fun _ _ => rfl) _ _ _ _
    · split
      · exact follows_endAfter hseen (fun _ _ => rfl) _ _ _ _
      · split
        · exact follows_endAfter hseen (fun _ _ => rfl) _ _ _ _
        · split
          · exact follows_endAfter (s := { s with sequence := seq }) hseen (fun _ _ => rfl) _ _ _ _
          · exact follows_forward (s := { s with sequence := seq }) contract hseen _ _ _
              (fun _ _ => rfl) _

theorem follows_frame {s : TeleopSession Context} (hseen : s.OwnerSeen) (data : Json)
    (context : Context) (receivedAt : ℚ) (answers : Answers) :
    Follows s.lifeOf (s.frame contract data context receivedAt answers) := by
  have hnothing : Unnoticed ([] : List (Emit Context)) := fun _ _ => rfl
  unfold frame
  split
  · split
    · exact ⟨fun _ => rfl, hseen⟩
    · split
      · exact ⟨fun _ => rfl, hseen⟩
      · split
        · exact ⟨fun _ => rfl, hseen⟩
        · split
          · exact follows_endAfter hseen hnothing _ _ _ _
          · split
            · exact follows_endAfter hseen hnothing _ _ _ _
            · split
              · exact ⟨fun _ => rfl, hseen⟩
              · exact follows_endAfter hseen hnothing _ _ _ _
              · exact follows_acceptSample contract hseen _ _ _ _ _ _
  · exact follows_endAfter hseen hnothing _ _ _ _

theorem follows_tick {s : TeleopSession Context} (hseen : s.OwnerSeen) (context : Context)
    (answers : Answers) : Follows s.lifeOf (s.tick contract context answers) := by
  have hended : ∀ emits : List (Emit Context), Unnoticed emits → ∀ reason outcome,
      Follows s.lifeOf ((s.endSession reason outcome answers.zeroRaises).1,
        emits ++ (s.endSession reason outcome answers.zeroRaises).2) := by
    intro emits hemits reason outcome
    have h := follows_endSession hseen reason outcome answers.zeroRaises
    refine ⟨fun id => ?_, h.seen⟩
    rw [Life.after_append, hemits id]
    exact h.life id
  have hasked : ∀ emits : List (Emit Context), Unnoticed emits → Follows s.lifeOf (s, emits) :=
    fun emits hemits => ⟨fun id => hemits id _, hseen⟩
  unfold tick
  simp only
  split
  · exact hasked _ fun _ _ => rfl
  · split
    · exact hended _ (fun _ _ => rfl) _ _
    · split
      · exact hended _ (fun _ _ => rfl) _ _
      · split
        · exact hended _ (fun _ _ => rfl) _ _
        · split
          · exact hended _ (fun _ _ => rfl) _ _
          · split
            · split
              · split
                · exact hended _ (fun _ _ => rfl) _ _
                · exact hasked _ fun _ _ => rfl
              · exact hasked _ fun _ _ => rfl
            · split
              · split
                · exact hended _ (fun _ _ => rfl) _ _
                · exact hasked _ fun _ _ => rfl
              · exact hasked _ fun _ _ => rfl

/-- **Step lemma.**  One call moves every id's life to where the new fields
    say it stands. -/
theorem follows_step {s : TeleopSession Context} (hseen : s.OwnerSeen)
    (call : TeleopCall Context × Answers) : Follows s.lifeOf (step contract s call) := by
  obtain ⟨call, answers⟩ := call
  cases call with
  | start data context receivedAt deferAck confirming =>
    exact follows_start contract hseen data context receivedAt deferAck answers confirming
  | confirmStart context => exact follows_confirmStart contract hseen context answers
  | frame data context receivedAt =>
    exact follows_frame contract hseen data context receivedAt answers
  | tick context => exact follows_tick contract hseen context answers
  | endSession reason outcome =>
    exact follows_endSession hseen reason outcome answers.zeroRaises

end Methods

/-! ### Refused starts -/

/-- The emit answers a start request with a refusal. -/
@[simp] def refusal : Emit Context → Bool
  | .ack _ _ _ site => decide (site = .start)
  | _ => false

@[simp] theorem any_refusal_endSession (s : TeleopSession Context) (reason : String)
    (outcome : EndOutcome) (zeroRaises : Bool) :
    (s.endSession reason outcome zeroRaises).2.any refusal = false := by
  unfold endSession
  cases s.commandId <;> cases s.acknowledged <;> simp

@[simp] theorem any_refusal_endAfter (s : TeleopSession Context) (emits : List (Emit Context))
    (reason : String) (outcome : EndOutcome) (zeroRaises value : Bool) :
    (s.endAfter emits reason outcome zeroRaises value).2.any refusal = emits.any refusal := by
  simp [endAfter, -List.any_eq_false]

section Refusals

variable [DecidableEq Context] (contract : TeleopContract)

theorem any_refusal_confirmStart (s : TeleopSession Context) (context) (answers) :
    (s.confirmStart contract context answers).2.any refusal = false := by
  unfold confirmStart
  split
  · simp
  · split
    · simp
    · simp only
      split
      · simp [-List.any_eq_false]
      · split
        · simp [-List.any_eq_false]
        · split
          · simp [-List.any_eq_false]
          · split <;> simp [-List.any_eq_false]

theorem any_refusal_frame (s : TeleopSession Context) (data context receivedAt) (answers) :
    (s.frame contract data context receivedAt answers).2.any refusal = false := by
  have hforward : ∀ (s : TeleopSession Context) linear angular now emits,
      emits.any refusal = false →
      (s.forward contract linear angular now emits answers).2.any refusal = false := by
    intro s linear angular now emits hemits
    unfold forward
    grind [any_refusal_endAfter, refusal]
  have haccept : ∀ (s : TeleopSession Context) seq linear angular deadman,
      (s.acceptSample contract seq linear angular deadman receivedAt answers).2.any refusal =
        false := by
    intro s seq linear angular deadman
    unfold acceptSample
    grind [any_refusal_endAfter, refusal]
  unfold frame
  split <;> grind [any_refusal_endAfter, refusal]

theorem any_refusal_tick (s : TeleopSession Context) (context) (answers) :
    (s.tick contract context answers).2.any refusal = false := by
  unfold tick
  simp only
  split
  · simp
  · split
    · simp [-List.any_eq_false]
    · split
      · simp [-List.any_eq_false]
      · split
        · simp [-List.any_eq_false]
        · split
          · simp [-List.any_eq_false]
          · split <;> split
            · split <;> simp [-List.any_eq_false]
            · simp [-List.any_eq_false]
            · split <;> simp [-List.any_eq_false]
            · simp [-List.any_eq_false]
@[simp] theorem any_refusal_openSession (s : TeleopSession Context) (id : String)
    (context : Context) (signature : PolicySignature) (deferAck : Bool)
    (emits : List (Emit Context)) (answers confirming : Answers) :
    (s.openSession contract id context signature deferAck emits answers confirming).2.any refusal
      = emits.any refusal := by
  unfold openSession
  simp only
  split
  · simp [-List.any_eq_false]
  · split
    · simp [-List.any_eq_false]
    · simp [any_refusal_confirmStart, -List.any_eq_false]

/-- Every refusal among the emits is for `commandId`. -/
def RefusesOnly (commandId : Json) (emits : List (Emit Context)) : Prop :=
  ∀ e ∈ emits, refusal e = true → ∃ accepted reason, e = .ack commandId accepted reason .start

omit [DecidableEq Context] in
theorem refusesOnly_of_any {emits : List (Emit Context)} (hemits : emits.any refusal = false)
    (commandId : Json) : RefusesOnly commandId emits :=
  fun e he hrefusal => absurd hrefusal (List.any_eq_false.mp hemits e he)

omit [DecidableEq Context] in
theorem refusesOnly_refuse {s : TeleopSession Context} {emits : List (Emit Context)}
    (hemits : emits.any refusal = false) (commandId : Json) (reason : String) :
    RefusesOnly commandId (s.refuse emits commandId reason).2 := by
  intro e he hrefusal
  simp only [refuse, List.mem_append, List.mem_cons, List.not_mem_nil, or_false] at he
  rcases he with he | rfl | rfl
  · exact refusesOnly_of_any hemits commandId e he hrefusal
  · exact ⟨_, _, rfl⟩
  · simp at hrefusal

theorem refusesOnly_start (s : TeleopSession Context) (fields : List (String × Json))
    (context : Context) (receivedAt : Option ℚ) (deferAck : Bool)
    (answers confirming : Answers) :
    RefusesOnly ((Json.lookup "command_id" fields).getD (.str ""))
      (s.start contract (.obj fields) context receivedAt deferAck answers confirming).2 := by
  unfold start
  simp only
  split
  · exact refusesOnly_refuse rfl _ _
  · split
    · exact refusesOnly_refuse rfl _ _
    · split
      · exact refusesOnly_refuse rfl _ _
      · split
        · exact refusesOnly_refuse rfl _ _
        · split
          · exact refusesOnly_refuse rfl _ _
          · split
            · exact refusesOnly_refuse rfl _ _
            · split
              · exact refusesOnly_refuse rfl _ _
              · exact refusesOnly_of_any (by simp [-List.any_eq_false]) _

/-- A start is the only call that answers with a refusal, and the refusal
    repeats the `command_id` of the request. -/
theorem refusal_of_step {s : TeleopSession Context} {call : TeleopCall Context × Answers}
    {commandId : Json} {accepted : Bool} {reason : Option String}
    (hmem : .ack commandId accepted reason .start ∈ (step contract s call).2) :
    ∃ fields context receivedAt deferAck confirming,
      call.1 = .start (.obj fields) context receivedAt deferAck confirming ∧
      commandId = (Json.lookup "command_id" fields).getD (.str "") := by
  have hrefusal : (step contract s call).2.any refusal = true :=
    List.any_eq_true.mpr ⟨_, hmem, by simp⟩
  obtain ⟨call, answers⟩ := call
  cases call with
  | confirmStart context => simp [step, any_refusal_confirmStart] at hrefusal
  | frame data context receivedAt => simp [step, any_refusal_frame] at hrefusal
  | tick context => simp [step, any_refusal_tick] at hrefusal
  | endSession reason outcome => simp [step] at hrefusal
  | start data context receivedAt deferAck confirming =>
    cases data with
    | obj fields =>
      obtain ⟨_, _, heq⟩ := refusesOnly_start contract s fields context receivedAt deferAck
        answers confirming _ hmem (by simp)
      simp only [Emit.ack.injEq] at heq
      exact ⟨fields, context, receivedAt, deferAck, confirming, rfl, heq.1⟩
    | _ => simp [step, start] at hmem

end Refusals

end TeleopSession

/-! ### What was sent for one id -/

namespace Life

@[simp] def isOpened (id : String) : Emit Context → Bool
  | .opened i _ _ => decide (i = id)
  | _ => false

@[simp] def isClosed (id : String) : Emit Context → Bool
  | .closed i => decide (i = id)
  | _ => false

@[simp] def isAcceptance (id : String) : Emit Context → Bool
  | .ack commandId accepted _ _ => addresses commandId id && accepted
  | _ => false

@[simp] def isResult (id : String) : Emit Context → Bool
  | .result i _ _ => decide (i = id)
  | _ => false

@[simp] def isRejection (id : String) : Emit Context → Bool
  | .ack commandId accepted _ _ => addresses commandId id && !accepted
  | _ => false

/-- How often the session of `id` was opened. -/
def opens (id : String) (emits : List (Emit Context)) : Nat :=
  emits.countP (isOpened id)

/-- How often the session of `id` was closed. -/
def closes (id : String) (emits : List (Emit Context)) : Nat :=
  emits.countP (isClosed id)

/-- The accepting acks for `id`. -/
def acceptances (id : String) (emits : List (Emit Context)) : Nat :=
  emits.countP (isAcceptance id)

/-- The results for `id`. -/
def results (id : String) (emits : List (Emit Context)) : Nat :=
  emits.countP (isResult id)

/-- The rejecting acks for `id`, refusals of a start apart. -/
def rejections (id : String) (emits : List (Emit Context)) : Nat :=
  emits.countP fun e => isRejection id e && !TeleopSession.refusal e

/-- What one more emit adds to a count. -/
theorem countP_append_singleton (p : Emit Context → Bool) (emits : List (Emit Context))
    (e : Emit Context) : (emits ++ [e]).countP p = emits.countP p + (p e).toNat := by
  rw [List.countP_append, List.countP_singleton]
  cases p e <;> rfl

/-- What the counts are where the life of `id` stands. -/
def Counts (id : String) (emits : List (Emit Context)) : Life → Prop
  | .unopened => opens id emits = 0 ∧ closes id emits = 0 ∧ acceptances id emits = 0 ∧
      results id emits = 0 ∧ rejections id emits = 0
  | .opened acknowledged => opens id emits = 1 ∧ closes id emits = 0 ∧
      acceptances id emits = acknowledged.toNat ∧ results id emits = 0 ∧ rejections id emits = 0
  | .closing acknowledged => opens id emits = 1 ∧ closes id emits = 1 ∧
      acceptances id emits = acknowledged.toNat ∧ results id emits = 0 ∧ rejections id emits = 0
  | .closed => opens id emits = 1 ∧ closes id emits = 1 ∧
      results id emits = acceptances id emits ∧
      acceptances id emits + rejections id emits = 1

theorem counts_next {id : String} {emits : List (Emit Context)} {life next : Life}
    {e : Emit Context} (hcounts : Counts id emits life) (hnext : life.next id e = some next) :
    Counts id (emits ++ [e]) next := by
  have hopens : opens id (emits ++ [e]) = opens id emits + (isOpened id e).toNat :=
    countP_append_singleton _ emits e
  have hcloses : closes id (emits ++ [e]) = closes id emits + (isClosed id e).toNat :=
    countP_append_singleton _ emits e
  have hacceptances : acceptances id (emits ++ [e]) =
      acceptances id emits + (isAcceptance id e).toNat :=
    countP_append_singleton _ emits e
  have hresults : results id (emits ++ [e]) = results id emits + (isResult id e).toNat :=
    countP_append_singleton _ emits e
  have hrejections : rejections id (emits ++ [e]) =
      rejections id emits + (isRejection id e && !TeleopSession.refusal e).toNat :=
    countP_append_singleton _ emits e
  cases e with
  | opened i context signature =>
    by_cases hid : i = id <;> cases life <;>
      simp [Life.next, hid] at hnext <;> subst hnext <;>
      simp_all [Counts]
  | closed i =>
    by_cases hid : i = id <;> cases life <;>
      simp [Life.next, hid] at hnext <;> subst hnext <;>
      simp_all [Counts]
  | result i outcome detail =>
    by_cases hid : i = id
    · rcases life with _ | _ | (_ | _) | _ <;> simp [Life.next, hid] at hnext
      subst hnext
      simp_all [Counts]
    · cases life <;> simp [Life.next, hid] at hnext <;> subst hnext <;>
        simp_all [Counts]
  | ack commandId accepted reason site =>
    by_cases hid : addresses commandId id = true
    · rw [Life.next, if_pos hid] at hnext
      unfold onAck at hnext
      split at hnext
      · obtain rfl : life = next := by simpa using hnext
        cases life <;> simp_all [Counts, -addresses]
      · obtain rfl : Life.opened true = next := by simpa using hnext
        simp_all [Counts, -addresses]
      · obtain rfl : Life.closed = next := by simpa using hnext
        simp_all [Counts, -addresses]
      · exact absurd hnext (by simp)
    · rw [Life.next, if_neg hid] at hnext
      obtain rfl : life = next := by simpa using hnext
      cases life <;> simp_all [Counts, -addresses]
  | _ =>
    obtain rfl : life = next := by simpa [Life.next] using hnext
    cases life <;> simp_all [Counts]

/-- The counts along the life of an id. -/
theorem counts_of_after {id : String} {emits : List (Emit Context)} {life : Life}
    (h : Life.unopened.after id emits = some life) : Counts id emits life := by
  induction emits using List.reverseRecOn generalizing life with
  | nil =>
    obtain rfl : Life.unopened = life := by simpa using h
    exact ⟨rfl, rfl, rfl, rfl, rfl⟩
  | append_singleton emits e ih =>
    rw [after_append, Option.bind_eq_some_iff] at h
    obtain ⟨before, hbefore, hnext⟩ := h
    exact counts_next (ih hbefore) (by simpa using hnext)

/-- The session of `id` was opened and not closed since. -/
def OpenAfter (id : String) (emits : List (Emit Context)) : Prop :=
  opens id emits = 1 ∧ closes id emits = 0

theorem opened_of_openAfter {id : String} {emits : List (Emit Context)} {life : Life}
    (hlife : Life.unopened.after id emits = some life) (hopen : OpenAfter id emits) :
    ∃ acknowledged, life = .opened acknowledged := by
  have hcounts := counts_of_after hlife
  cases life with
  | opened acknowledged => exact ⟨acknowledged, rfl⟩
  | unopened => exact absurd hopen.1 (by simp [hcounts.1])
  | closing acknowledged => exact absurd hopen.2 (by simp [hcounts.2.1])
  | closed => exact absurd hopen.2 (by simp [hcounts.2.1])

/-- While the session is open the only reply its id has room for is the refusal
    of a start. -/
theorem refusal_of_next {id : String} {acknowledged : Bool} {next : Life} {e : Emit Context}
    (hnext : (Life.opened acknowledged).next id e = some next)
    (hreply : isResult id e = true ∨ isRejection id e = true) :
    ∃ reason, e = .ack (.str id) false reason .start := by
  cases e with
  | result i outcome detail =>
    obtain rfl : i = id := by simpa using hreply
    simp [Life.next] at hnext
  | ack commandId accepted reason site =>
    cases commandId with
    | str i =>
      obtain ⟨rfl, rfl⟩ : i = id ∧ accepted = false := by simpa using hreply
      cases site with
      | start => exact ⟨reason, rfl⟩
      | confirmStart => simp [Life.next] at hnext
      | endSession => simp [Life.next] at hnext
    | _ => simp at hreply
  | _ => simp at hreply

end Life

section Runs

variable [DecidableEq Context] (contract : TeleopContract)

/-- Everything a run emitted, in order. -/
def sent (history : List ((TeleopCall Context × Answers) × List (Emit Context))) :
    List (Emit Context) :=
  history.flatMap Prod.snd

/-- **Run lemma.**  After a run every id stands where the session's fields say. -/
theorem life_run (calls : List (TeleopCall Context × Answers)) :
    (∀ id, Life.unopened.after id (sent ((teleopSession Context contract).trace {} calls)) =
        some (((teleopSession Context contract).run {} calls).lifeOf id)) ∧
      ((teleopSession Context contract).run {} calls).OwnerSeen := by
  refine (teleopSession Context contract).history_invariant
    (fun history s => (∀ id, Life.unopened.after id (sent history) = some (s.lifeOf id)) ∧
      s.OwnerSeen)
    ?_ ?_ ((teleopSession Context contract).along_true {} calls)
  · rintro history s call - ⟨hlife, hseen⟩
    have hstep := TeleopSession.follows_step contract hseen call
    refine ⟨fun id => ?_, hstep.seen⟩
    simp only [sent, List.flatMap_append, List.flatMap_cons, List.flatMap_nil, List.append_nil,
      Life.after_append]
    rw [← sent, hlife id]
    exact hstep.life id
  · exact ⟨fun id => by simp [sent, TeleopSession.lifeOf], by simp [TeleopSession.OwnerSeen]⟩

/-- A result or a rejecting ack for `id` that the call `call` of the run sends
    while the session of `id` is open. -/
def RepliedWhileOpen (calls : List (TeleopCall Context × Answers)) (id : String)
    (call : TeleopCall Context × Answers) (e : Emit Context) : Prop :=
  ∃ before first rest after,
    (teleopSession Context contract).trace {} calls =
        before ++ (call, first ++ e :: rest) :: after ∧
    Life.OpenAfter id (sent before ++ first) ∧
    (Life.isResult id e = true ∨ Life.isRejection id e = true)

/-- **Session lifecycle.**  In every run an id is opened at most once.  Once
    its session is closed exactly one reply has closed it: a result if it had
    been acknowledged, a rejecting ack otherwise.  While it is open, no result
    and no rejecting ack is sent for it, except by a start call that asks for
    the same id and is refused. -/
theorem session_lifecycle (calls : List (TeleopCall Context × Answers)) (id : String) :
    let emits := sent ((teleopSession Context contract).trace {} calls)
    Life.opens id emits ≤ 1 ∧
    (Life.opens id emits = 1 →
      if ((teleopSession Context contract).run {} calls).commandId = some id then
        Life.results id emits = 0 ∧ Life.rejections id emits = 0
      else if 0 < Life.acceptances id emits then
        Life.results id emits = 1 ∧ Life.rejections id emits = 0
      else Life.results id emits = 0 ∧ Life.rejections id emits = 1) ∧
    (∀ call e, RepliedWhileOpen contract calls id call e →
      ∃ fields context receivedAt deferAck confirming reason,
        call.1 = .start (.obj fields) context receivedAt deferAck confirming ∧
        (Json.lookup "command_id" fields).getD (.str "") = .str id ∧
        e = .ack (.str id) false reason .start) := by
  intro emits
  obtain ⟨hlife, -⟩ := life_run contract calls
  have hcounts : Life.Counts id emits _ := Life.counts_of_after (hlife id)
  refine ⟨?_, ?_, ?_⟩
  · cases hnow : ((teleopSession Context contract).run {} calls).lifeOf id <;>
      rw [hnow] at hcounts <;> exact hcounts.1.trans_le (by decide)
  · intro hopens
    unfold TeleopSession.lifeOf at hcounts
    split at hcounts
    · rename_i howner
      rw [if_pos howner]
      exact hcounts.2.2.2
    · rename_i howner
      rw [if_neg howner]
      split at hcounts
      · obtain ⟨-, -, hresults, hreplies⟩ := hcounts
        split <;> omega
      · exact absurd hopens (by rw [hcounts.1]; decide)
  · rintro call e ⟨before, first, rest, after, hrun, hopen, hreply⟩
    obtain ⟨earlier, call', later, -, hbefore, hsegment⟩ :=
      (teleopSession Context contract).exists_of_trace_eq hrun
    obtain ⟨rfl, hemits⟩ := Prod.mk.inj hsegment
    subst hbefore
    obtain ⟨hearlier, hseen⟩ := life_run contract earlier
    have hcall := (TeleopSession.follows_step contract hseen call).life id
    -- The prefix up to `e` leaves the id open, and the automaton has a move for `e`.
    have hwhole : Life.unopened.after id
        (sent ((teleopSession Context contract).trace {} earlier) ++ (first ++ e :: rest)) =
        some ((TeleopSession.step contract
          ((teleopSession Context contract).run {} earlier) call).1.lifeOf id) := by
      rw [Life.after_append, hearlier id, hemits]
      exact hcall
    rw [← List.append_assoc, Life.after_append, Option.bind_eq_some_iff] at hwhole
    obtain ⟨life, hbefore, hrest⟩ := hwhole
    obtain ⟨acknowledged, rfl⟩ := Life.opened_of_openAfter hbefore hopen
    rw [Life.after_cons, Option.bind_eq_some_iff] at hrest
    obtain ⟨next, hnext, -⟩ := hrest
    obtain ⟨reason, rfl⟩ := Life.refusal_of_next hnext hreply
    have hmem : .ack (.str id) false reason .start ∈ (TeleopSession.step contract
        ((teleopSession Context contract).run {} earlier) call).2 := by
      have : (.ack (.str id) false reason .start : Emit Context) ∈
          first ++ .ack (.str id) false reason .start :: rest := by simp
      rw [hemits] at this
      exact this
    obtain ⟨fields, context, receivedAt, deferAck, confirming, hstart, hsame⟩ :=
      TeleopSession.refusal_of_step contract hmem
    exact ⟨fields, context, receivedAt, deferAck, confirming, reason, hstart, hsame.symm, rfl⟩

end Runs

/-- Any start that repeats the id of the session it finds open is answered with
    a rejecting ack for that id. -/
theorem replied_while_open_of_valid {id : String}
    (hid : TeleopSession.canonicalUuid id.toList = true) :
    RepliedWhileOpen readContract [startRequest id true, startRequest id true] id
      (startRequest id true) (.ack (.str id) false
        (some "Manual drive already has an owner. End that session first.") .start) := by
  have hfirst : (TeleopSession.step readContract {} (startRequest id true)) =
      ({ policySignature := some ⟨false, 3 / 10, 7 / 10, none⟩, commandId := some id,
         context := some 0, lastReceived := some 0, preparingAt := some 0, seen := {id} },
        [.safety none, .resolved (.ok ⟨3 / 10, 7 / 10, none, false⟩),
          .opened id 0 ⟨false, 3 / 10, 7 / 10, none⟩, .publish 0 0 false, .returned true]) := by
    simp [TeleopSession.step, startRequest, TeleopSession.start, calm,
      TeleopSession.authorizedId, Json.get, Json.lookup, TeleopSession.validId, hid,
      TeleopSession.fresh, readContract, TeleopContract.timeout, resolvePolicy,
      RuntimePolicy.signature, TeleopSession.openSession]
    norm_num
  refine ⟨(teleopSession Nat readContract).trace {} [startRequest id true],
    [], [.returned false], [], ?_, ?_, .inr (by simp)⟩
  · simp only [Machine.trace_cons, Machine.trace_nil, teleopSession, hfirst]
    simp [TeleopSession.step, startRequest, TeleopSession.start, Json.get, Json.lookup,
      TeleopSession.authorizedId, TeleopSession.validId, hid, TeleopSession.refuse]
  · simp only [Machine.trace_cons, Machine.trace_nil, teleopSession, hfirst]
    simp [sent, Life.OpenAfter, Life.opens, Life.closes]

/-- The refusal of a repeated start is sent while the session of its id is
    still open: a start that waits for its confirmation, then the same request
    again. -/
theorem replied_while_open_of_repeated_start :
    RepliedWhileOpen readContract
      [startRequest "00000000-0000-4000-8000-000000000000" true,
        startRequest "00000000-0000-4000-8000-000000000000" true]
      "00000000-0000-4000-8000-000000000000"
      (startRequest "00000000-0000-4000-8000-000000000000" true)
      (.ack (.str "00000000-0000-4000-8000-000000000000") false
        (some "Manual drive already has an owner. End that session first.") .start) :=
  replied_while_open_of_valid (by decide)

end PatrolBot
