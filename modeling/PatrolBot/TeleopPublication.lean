import Mathlib.Tactic.Linarith
import PatrolBot.TeleopSession

/-!
# Publication safety of the manual-drive session

Every motion sample that leaves a session is covered by everything the session
was admitted under.  `SessionWatch` is what an observer of the trace knows
about the open session: with what it was opened, when it was confirmed, when it
last published motion and which sequence numbers it accepted.  `Tracks` says
that the session's own fields agree with the observer; every method keeps it,
and the checks of `frame` then speak about the observer's record.
-/

namespace PatrolBot

variable {Context : Type}

/-- What an observer of the emits knows about the open session. -/
structure SessionWatch (Context : Type) where
  opening : Option (String × Context × PolicySignature) := none
  confirmedAt : Option ℚ := none
  sampledAt : Option ℚ := none
  publishedAt : Option ℚ := none
  accepted : List Int := []

namespace SessionWatch

def next (w : SessionWatch Context) : Emit Context → SessionWatch Context
  | .opened commandId context signature => { opening := some (commandId, context, signature) }
  | .confirmed clock => { w with confirmedAt := some clock }
  | .sampled clock => { w with sampledAt := some clock }
  | .accepted seq => { w with accepted := seq :: w.accepted }
  | .publish _ _ true => { w with publishedAt := w.sampledAt }
  | .closed _ => {}
  | _ => w

def after (w : SessionWatch Context) (emits : List (Emit Context)) : SessionWatch Context :=
  emits.foldl next w

@[simp] theorem after_nil (w : SessionWatch Context) : w.after [] = w := rfl

@[simp] theorem after_cons (w : SessionWatch Context) (e : Emit Context)
    (emits : List (Emit Context)) : w.after (e :: emits) = (w.next e).after emits := rfl

@[simp] theorem after_append (w : SessionWatch Context) (emits more : List (Emit Context)) :
    w.after (emits ++ more) = (w.after emits).after more :=
  List.foldl_append

/-- The record at the end of a history of calls. -/
def ofHistory (history : List ((TeleopCall Context × Answers) × List (Emit Context))) :
    SessionWatch Context :=
  after {} (history.flatMap Prod.snd)

theorem ofHistory_concat (history : List ((TeleopCall Context × Answers) × List (Emit Context)))
    (segment : (TeleopCall Context × Answers) × List (Emit Context)) :
    ofHistory (history ++ [segment]) = (ofHistory history).after segment.2 := by
  simp only [ofHistory, List.flatMap_append, List.flatMap_cons, List.flatMap_nil,
    List.append_nil, after_append]

end SessionWatch

open SessionWatch

/-- The fields of the session agree with the observer's record. -/
structure Tracks (w : SessionWatch Context) (s : TeleopSession Context) : Prop where
  idle : s.commandId = none → w = {}
  opening : ∀ id, s.commandId = some id → ∃ context signature,
    w.opening = some (id, context, signature) ∧ s.context = some context ∧
      s.policySignature = some signature
  accepted : ∀ q ∈ w.accepted, q ≤ s.sequence
  unconfirmed : s.acknowledged = false → w.publishedAt = none
  confirmed : s.acknowledged = true → ∃ confirmedAt, w.confirmedAt = some confirmedAt ∧
    confirmedAt ≤ w.publishedAt.getD confirmedAt ∧
    s.lastReceived = some (w.publishedAt.getD confirmedAt)

/-- The agreement after a call, for the call's result. -/
def TracksAfter (w : SessionWatch Context)
    (result : TeleopSession Context × List (Emit Context)) : Prop :=
  Tracks (w.after result.2) result.1

namespace TeleopSession

/-! ### Every method keeps the agreement -/

theorem tracks_endSession {w : SessionWatch Context} {s : TeleopSession Context}
    (idle : s.commandId = none → w = {}) (reason : String) (outcome : EndOutcome)
    (zeroRaises : Bool) :
    TracksAfter w (s.endSession reason outcome zeroRaises) := by
  have hidle : w.after (s.endSession reason outcome zeroRaises).2 = {} := by
    cases hid : s.commandId with
    | none => simp [endSession, hid, idle hid, next]
    | some id => cases hack : s.acknowledged <;> simp [endSession, hid, hack, next]
  rw [TracksAfter, hidle]
  cases hid : s.commandId <;>
    exact ⟨fun _ => rfl, by simp [endSession, hid], by simp, fun _ => rfl,
      by simp [endSession, hid]⟩

theorem tracks_endAfter {w : SessionWatch Context} {s : TeleopSession Context}
    {emits : List (Emit Context)} (idle : s.commandId = none → w.after emits = {})
    (reason : String) (outcome : EndOutcome) (zeroRaises value : Bool) :
    TracksAfter w (s.endAfter emits reason outcome zeroRaises value) := by
  have h := tracks_endSession idle reason outcome zeroRaises
  simpa [TracksAfter, endAfter, next] using h

section Methods

variable [DecidableEq Context] (contract : TeleopContract)

theorem tracks_confirmStart {w : SessionWatch Context} {s : TeleopSession Context}
    (h : Tracks w s) (context : Context) (answers : Answers) :
    TracksAfter w (s.confirmStart contract context answers) := by
  unfold confirmStart
  cases hid : s.commandId with
  | none => simpa [TracksAfter, next] using h
  | some id =>
    have busy : s.commandId = none → ∀ emits, w.after emits = {} := by simp [hid]
    by_cases hack : s.acknowledged = true
    · simpa [TracksAfter, hack, next] using h
    · simp only [hack, Bool.false_eq_true, if_false]
      cases answers.safety with
      | some reason => exact tracks_endAfter (fun hn => busy hn _) _ _ _ _
      | none =>
        simp only
        split
        · exact tracks_endAfter (fun hn => busy hn _) _ _ _ _
        · cases resolvePolicy contract.linear.max contract.angular.max answers.policy with
          | error reason => exact tracks_endAfter (fun hn => busy hn _) _ _ _ _
          | ok policy =>
            simp only
            split
            · exact tracks_endAfter (fun hn => busy hn _) _ _ _ _
            · have hpublished := h.unconfirmed (by simpa using hack)
              simp only [TracksAfter, List.cons_append, List.nil_append, after_cons, after_nil,
                next]
              exact ⟨by simp, fun id' hid' => h.opening id' (hid.trans hid'), h.accepted, by simp,
                fun _ => ⟨answers.clock 0, rfl, by simp [hpublished], by simp [hpublished]⟩⟩

theorem tracks_openSession {w : SessionWatch Context} {s : TeleopSession Context}
    (id : String) (context : Context) (signature : PolicySignature) (deferAck : Bool)
    (emits : List (Emit Context)) (answers confirming : Answers) :
    TracksAfter w
      (s.openSession contract id context signature deferAck emits answers confirming) := by
  unfold openSession
  simp only
  split
  · exact tracks_endAfter (by simp) _ _ _ _
  · have hopened : Tracks (w.after (emits ++ [.opened id context signature, .publish 0 0 false]))
        { s with
          seen := insert id s.seen, commandId := some id, context := some context, sequence := -1,
          lastReceived := some (answers.clock 1), preparingAt := some (answers.clock 2),
          acknowledged := false, policySignature := some signature } := by
      simp only [after_append, after_cons, after_nil, next]
      exact ⟨by simp, by simp, by simp, by simp, by simp⟩
    split
    · simpa [TracksAfter, next] using hopened
    · have hconfirmed := tracks_confirmStart contract hopened context confirming
      simpa [TracksAfter, next] using hconfirmed

omit [DecidableEq Context] in
/-- A start that opens nothing leaves an idle session's record alone. -/
theorem tracks_refuse {w : SessionWatch Context} {s : TeleopSession Context}
    {emits : List (Emit Context)} (h : Tracks (w.after emits) s) (commandId : Json)
    (reason : String) :
    TracksAfter w (s.refuse emits commandId reason) := by
  simpa [TracksAfter, refuse, next] using h

theorem tracks_start {w : SessionWatch Context} {s : TeleopSession Context} (h : Tracks w s)
    (data : Json) (context : Context) (receivedAt : Option ℚ) (deferAck : Bool)
    (answers confirming : Answers) :
    TracksAfter w (s.start contract data context receivedAt deferAck answers confirming) := by
  unfold start
  cases data with
  | obj fields =>
    simp only
    cases authorizedId fields ((Json.lookup "command_id" fields).getD (.str "")) with
    | none => exact tracks_refuse (by simpa using h) _ _
    | some id =>
      simp only
      split
      · exact tracks_refuse (by simpa using h) _ _
      · rename_i hactive
        have hid : s.commandId = none := by simpa using hactive
        split
        · exact tracks_refuse (by simpa using h) _ _
        · split
          · exact tracks_refuse (by simpa using h) _ _
          · cases answers.safety with
            | some reason => exact tracks_refuse (by simpa [TracksAfter, next] using h) _ _
            | none =>
              cases resolvePolicy contract.linear.max contract.angular.max answers.policy with
              | error reason => exact tracks_refuse (by simpa [TracksAfter, next] using h) _ _
              | ok policy =>
                simp only
                split
                · refine tracks_refuse ?_ _ _
                  -- The captured signature of a session that is not opened is never read.
                  simp only [List.cons_append, List.nil_append, after_cons, after_nil, next]
                  exact ⟨h.idle, by simp [hid], h.accepted, h.unconfirmed, h.confirmed⟩
                · exact tracks_openSession contract _ _ _ _ _ _ _
  | null | bool _ | int _ | float _ | str _ | list _ => simpa [TracksAfter, next] using h

omit [DecidableEq Context] in
theorem tracks_forward {w : SessionWatch Context} {s : TeleopSession Context}
    (hid : s.commandId ≠ none) (hack : s.acknowledged = true)
    (linear angular now : ℚ) {emits : List (Emit Context)} (answers : Answers)
    (h : Tracks (w.after emits) s) (hsampled : (w.after emits).sampledAt = some now)
    (hnow : ∀ received, s.lastReceived = some received → received ≤ now) :
    TracksAfter w (s.forward contract linear angular now emits answers) := by
  unfold forward
  cases resolvePolicy contract.linear.max contract.angular.max answers.policy with
  | error reason => exact tracks_endAfter (fun hn => absurd hn hid) _ _ _ _
  | ok policy =>
    simp only
    split
    · exact tracks_endAfter (fun hn => absurd hn hid) _ _ _ _
    · split
      · exact tracks_endAfter (fun hn => absurd hn hid) _ _ _ _
      · cases answers.safety with
        | some reason => exact tracks_endAfter (fun hn => absurd hn hid) _ _ _ _
        | none =>
          simp only
          split
          · exact tracks_endAfter (fun hn => absurd hn hid) _ _ _ _
          · obtain ⟨confirmedAt, hconfirmed, hle, hlast⟩ := h.confirmed hack
            simp only [TracksAfter, after_append, after_cons, after_nil, next]
            refine ⟨fun hn => absurd hn hid, h.opening, h.accepted, by simp [hack], ?_⟩
            intro _
            refine ⟨confirmedAt, hconfirmed, ?_, by simp [hsampled]⟩
            simpa [hsampled] using le_trans hle (hnow _ hlast)

omit [DecidableEq Context] in
theorem tracks_acceptSample {w : SessionWatch Context} {s : TeleopSession Context}
    (h : Tracks w s) (hid : s.commandId ≠ none) (hack : s.acknowledged = true)
    (seq : Int) (linear angular : ℚ) (deadman : Bool) (receivedAt : ℚ) (answers : Answers) :
    TracksAfter w
      (s.acceptSample contract seq linear angular deadman receivedAt answers) := by
  unfold acceptSample
  split
  · simpa [TracksAfter, next] using h
  · rename_i hseq
    simp only
    split
    · exact tracks_endAfter (fun hn => absurd hn hid) _ _ _ _
    · cases hlast : s.lastReceived with
      | none => exact tracks_endAfter (fun hn => absurd hn hid) _ _ _ _
      | some lastReceived =>
        simp only
        split
        · exact tracks_endAfter (fun hn => absurd hn hid) _ _ _ _
        · rename_i htime
          split
          · exact tracks_endAfter
              (s := { s with sequence := seq, lastReceived := some lastReceived })
              (fun hn => absurd hn hid) _ _ _ _
          · refine tracks_forward contract (by simpa using hid) (by simpa using hack) _ _ _ _
              ?_ (by simp [next]) ?_
            · simp only [after_cons, after_nil, next]
              refine ⟨fun hn => absurd hn hid, h.opening, ?_, h.unconfirmed, ?_⟩
              · intro q hq
                rcases List.mem_cons.mp hq with rfl | hq
                · exact le_refl _
                · have := h.accepted q hq
                  simp only
                  omega
              · intro hconfirmed
                simpa [hlast] using h.confirmed hconfirmed
            · intro received hreceived
              have heq : lastReceived = received := by simpa [hlast] using hreceived
              have hage := (not_not.mp htime).1
              linarith

theorem tracks_frame {w : SessionWatch Context} {s : TeleopSession Context} (h : Tracks w s)
    (data : Json) (context : Context) (receivedAt : ℚ) (answers : Answers) :
    TracksAfter w (s.frame contract data context receivedAt answers) := by
  unfold frame
  cases data with
  | obj fields =>
    simp only
    cases hid : s.commandId with
    | none => simpa [TracksAfter, next] using h
    | some id =>
      have busy : s.commandId = none → w.after [] = {} := by simp [hid]
      simp only
      split
      · simpa [TracksAfter, next] using h
      · split
        · simpa [TracksAfter, next] using h
        · rename_i hack
          split
          · exact tracks_endAfter busy _ _ _ _
          · split
            · exact tracks_endAfter busy _ _ _ _
            · split
              · simpa [TracksAfter, next] using h
              · exact tracks_endAfter busy _ _ _ _
              · exact tracks_acceptSample contract h (by simp [hid]) (by simpa using hack)
                  _ _ _ _ _ _
  | null | bool _ | int _ | float _ | str _ | list _ =>
    exact tracks_endAfter (fun hn => by simpa using h.idle hn) _ _ _ _

theorem tracks_tick {w : SessionWatch Context} {s : TeleopSession Context} (h : Tracks w s)
    (context : Context) (answers : Answers) :
    TracksAfter w (s.tick contract context answers) := by
  unfold tick
  cases hid : s.commandId with
  | none => simpa [TracksAfter] using h
  | some id =>
    have ended : ∀ (emits : List (Emit Context)) reason outcome,
        TracksAfter w ((s.endSession reason outcome answers.zeroRaises).1,
          emits ++ (s.endSession reason outcome answers.zeroRaises).2) := by
      intro emits reason outcome
      rw [TracksAfter, after_append]
      exact tracks_endSession (by simp [hid]) _ _ _
    simp only
    split
    · exact ended _ _ _
    · cases answers.safety with
      | some reason => exact ended _ _ _
      | none =>
        cases resolvePolicy contract.linear.max contract.angular.max answers.policy with
        | error reason => exact ended _ _ _
        | ok policy =>
          simp only
          split
          · exact ended _ _ _
          · split
            · split
              · split
                · exact ended _ _ _
                · simpa [TracksAfter, next] using h
              · simpa [TracksAfter, next] using h
            · split
              · split
                · exact ended _ _ _
                · simpa [TracksAfter, next] using h
              · simpa [TracksAfter, next] using h

/-- **Step lemma.**  One call keeps the agreement. -/
theorem tracks_step {w : SessionWatch Context} {s : TeleopSession Context} (h : Tracks w s)
    (call : TeleopCall Context × Answers) :
    TracksAfter w (step contract s call) := by
  obtain ⟨call, answers⟩ := call
  cases call with
  | start data context receivedAt deferAck confirming =>
    exact tracks_start contract h data context receivedAt deferAck answers confirming
  | confirmStart context => exact tracks_confirmStart contract h context answers
  | frame data context receivedAt => exact tracks_frame contract h data context receivedAt answers
  | tick context => exact tracks_tick contract h context answers
  | endSession reason outcome => exact tracks_endSession h.idle reason outcome answers.zeroRaises

/-! ### What a motion sample is covered by -/

/-- An emit that neither is motion nor reports an answer a motion sample needs. -/
def Quiet (e : Emit Context) : Prop :=
  (∀ linear angular, e ≠ .publish linear angular true) ∧
    (∀ answer, e ≠ .safety answer) ∧ (∀ policy, e ≠ .resolved policy)

omit [DecidableEq Context] in
theorem quiet_of_mem_endSession {s : TeleopSession Context} {reason : String}
    {outcome : EndOutcome} {zeroRaises : Bool} {e : Emit Context}
    (h : e ∈ (s.endSession reason outcome zeroRaises).2) : Quiet e := by
  revert h
  cases hid : s.commandId with
  | none => simp +contextual [endSession, hid, Quiet]
  | some id =>
    cases hack : s.acknowledged <;> simp only [endSession, hid, hack, List.mem_cons,
      List.not_mem_nil, or_false, if_true, Bool.false_eq_true, if_false] <;>
      rintro (rfl | rfl | rfl) <;> simp [Quiet]

omit [DecidableEq Context] in
/-- Ending a session in the middle of a call adds only quiet emits. -/
theorem endAfter_emits (s : TeleopSession Context) (emits : List (Emit Context))
    (reason : String) (outcome : EndOutcome) (zeroRaises value : Bool) :
    ∃ tail, (s.endAfter emits reason outcome zeroRaises value).2 = emits ++ tail ∧
      ∀ e ∈ tail, Quiet e := by
  refine ⟨(s.endSession reason outcome zeroRaises).2 ++ [.returned value], by simp [endAfter], ?_⟩
  intro e he
  rcases List.mem_append.mp he with he | he
  · exact quiet_of_mem_endSession he
  · simp only [List.mem_singleton] at he
    subst he
    simp [Quiet]

omit [DecidableEq Context] in
/-- Closing a session publishes no motion. -/
theorem no_motion_endAfter {s : TeleopSession Context} {emits : List (Emit Context)}
    {reason : String} {outcome : EndOutcome} {zeroRaises value : Bool} {linear angular : ℚ}
    (hemits : .publish linear angular true ∉ emits) :
    .publish linear angular true ∉ (s.endAfter emits reason outcome zeroRaises value).2 := by
  intro h
  obtain ⟨tail, htail, hquiet⟩ := endAfter_emits s emits reason outcome zeroRaises value
  rw [htail] at h
  rcases List.mem_append.mp h with h | h
  · exact hemits h
  · exact (hquiet _ h).1 _ _ rfl

theorem no_motion_confirmStart {s : TeleopSession Context} {context : Context}
    {answers : Answers} {linear angular : ℚ} :
    .publish linear angular true ∉ (s.confirmStart contract context answers).2 := by
  unfold confirmStart
  cases s.commandId with
  | none => simp
  | some id =>
    simp only
    split
    · simp
    · cases answers.safety with
      | some reason => exact no_motion_endAfter (by simp)
      | none =>
        simp only
        split
        · exact no_motion_endAfter (by simp)
        · cases resolvePolicy contract.linear.max contract.angular.max answers.policy with
          | error reason => exact no_motion_endAfter (by simp)
          | ok policy =>
            simp only
            split
            · exact no_motion_endAfter (by simp)
            · simp

theorem no_motion_start {s : TeleopSession Context} {data : Json} {context : Context}
    {receivedAt : Option ℚ} {deferAck : Bool} {answers confirming : Answers}
    {linear angular : ℚ} :
    .publish linear angular true ∉
      (s.start contract data context receivedAt deferAck answers confirming).2 := by
  have hopen : ∀ (s : TeleopSession Context) id context signature deferAck emits,
      .publish linear angular true ∉ emits → .publish linear angular true ∉
        (s.openSession contract id context signature deferAck emits answers confirming).2 := by
    intro s id context signature deferAck emits hemits
    unfold openSession
    simp only
    split
    · exact no_motion_endAfter (by simp [hemits])
    · split
      · simp [hemits]
      · simp [hemits, no_motion_confirmStart contract]
  unfold start
  cases data with
  | obj fields =>
    simp only
    cases authorizedId fields ((Json.lookup "command_id" fields).getD (.str "")) with
    | none => simp [refuse]
    | some id =>
      simp only
      split
      · simp [refuse]
      · split
        · simp [refuse]
        · split
          · simp [refuse]
          · cases answers.safety with
            | some reason => simp [refuse]
            | none =>
              cases resolvePolicy contract.linear.max contract.angular.max answers.policy with
              | error reason => simp [refuse]
              | ok policy =>
                simp only
                split
                · simp [refuse]
                · exact hopen _ _ _ _ _ _ (by simp)
  | null | bool _ | int _ | float _ | str _ | list _ => simp

theorem no_motion_tick {s : TeleopSession Context} {context : Context} {answers : Answers}
    {linear angular : ℚ} : .publish linear angular true ∉ (s.tick contract context answers).2 := by
  have hended : ∀ (emits : List (Emit Context)) reason outcome,
      .publish linear angular true ∉ emits → .publish linear angular true ∉
        emits ++ (s.endSession reason outcome answers.zeroRaises).2 := by
    intro emits reason outcome hemits h
    rcases List.mem_append.mp h with h | h
    · exact hemits h
    · exact (quiet_of_mem_endSession h).1 _ _ rfl
  unfold tick
  cases s.commandId with
  | none => simp
  | some id =>
    simp only
    split
    · exact hended _ _ _ (by simp)
    · cases answers.safety with
      | some reason => exact hended _ _ _ (by simp)
      | none =>
        cases resolvePolicy contract.linear.max contract.angular.max answers.policy with
        | error reason => exact hended _ _ _ (by simp)
        | ok policy =>
          simp only
          split
          · exact hended _ _ _ (by simp)
          · split
            · split
              · split
                · exact hended _ _ _ (by simp)
                · simp
              · simp
            · split
              · split
                · exact hended _ _ _ (by simp)
                · simp
              · simp

omit [DecidableEq Context] in
/-- The one branch of `forward` that publishes motion. -/
theorem motion_of_forward {s : TeleopSession Context} {linear angular now : ℚ}
    {emits : List (Emit Context)} {answers : Answers} {l a : ℚ}
    (hemits : ∀ e ∈ emits, Quiet e)
    (h : .publish l a true ∈ (s.forward contract linear angular now emits answers).2) :
    ∃ policy tail,
      (s.forward contract linear angular now emits answers).2 =
        emits ++ [.resolved (.ok policy), .safety none, .publish linear angular true] ++ tail ∧
      (∀ e ∈ tail, Quiet e) ∧ some policy.signature = s.policySignature ∧
      policy.exceeds linear angular = false := by
  have hquiet : .publish l a true ∉ emits := fun hmem => (hemits _ hmem).1 _ _ rfl
  revert h
  unfold forward
  cases resolvePolicy contract.linear.max contract.angular.max answers.policy with
  | error reason => exact fun h => absurd h (no_motion_endAfter (by simp [hquiet]))
  | ok policy =>
    simp only
    split
    · exact fun h => absurd h (no_motion_endAfter (by simp [hquiet]))
    · rename_i hsignature
      split
      · exact fun h => absurd h (no_motion_endAfter (by simp [hquiet]))
      · rename_i hover
        cases answers.safety with
        | some reason => exact fun h => absurd h (no_motion_endAfter (by simp [hquiet]))
        | none =>
          intro _
          simp only
          split
          · obtain ⟨tail, htail, hquiet⟩ := endAfter_emits { s with lastReceived := some now }
              (emits ++ [.resolved (.ok policy)] ++ [.safety none] ++
                [.publish linear angular true])
              "Manual publication failed; physical stop is not confirmed." .failed
              answers.zeroRaises false
            exact ⟨policy, tail, by simpa using htail, hquiet, not_not.mp hsignature,
              by simpa using hover⟩
          · exact ⟨policy, [.returned true], by simp, by simp [Quiet], not_not.mp hsignature,
              by simpa using hover⟩

omit [DecidableEq Context] in
theorem limits_of_checkSample {seq linear angular deadman : Json} {q : Int} {l a : ℚ} {held : Bool}
    (h : checkSample contract seq linear angular deadman = .sample q l a held) :
    seq = .int q ∧ isfinite linear = .finite l ∧ isfinite angular = .finite a ∧
      deadman = .bool held ∧ contract.linear.contains l = true ∧
      contract.angular.contains a = true := by
  unfold checkSample at h
  split at h
  · split at h
    · cases h
    · split at h
      · cases h
      · cases h
      · rename_i hlinear
        split at h
        · cases h
        · cases h
        · rename_i hangular
          split at h
          · cases h
          · rename_i hin
            cases h
            push Not at hin
            exact ⟨rfl, hlinear, hangular, rfl, by simpa using hin.1, by simpa using hin.2.1⟩
  · cases h

omit [DecidableEq Context] in
theorem motion_of_acceptSample {s : TeleopSession Context} {seq : Int} {linear angular : ℚ}
    {deadman : Bool} {receivedAt : ℚ} {answers : Answers}
    {result : TeleopSession Context × List (Emit Context)} {l a : ℚ}
    (hresult : s.acceptSample contract seq linear angular deadman receivedAt answers = result)
    (h : .publish l a true ∈ result.2) :
    l = linear ∧ a = angular ∧ s.sequence < seq ∧ ∃ lastReceived policy tail,
      s.lastReceived = some lastReceived ∧ 0 ≤ answers.clock 0 - lastReceived ∧
      answers.clock 0 - lastReceived < contract.timeout ∧
      some policy.signature = s.policySignature ∧ policy.exceeds linear angular = false ∧
      result.2 = [.sampled (answers.clock 0), .accepted seq, .resolved (.ok policy),
        .safety none, .publish linear angular true] ++ tail ∧ (∀ e ∈ tail, Quiet e) := by
  unfold acceptSample at hresult
  split at hresult
  · subst hresult
    simp at h
  · rename_i hseq
    simp only at hresult
    split at hresult
    · subst hresult
      exact absurd h (no_motion_endAfter (by simp))
    · split at hresult
      · subst hresult
        exact absurd h (no_motion_endAfter (by simp))
      · rename_i lastReceived hlast
        split at hresult
        · subst hresult
          exact absurd h (no_motion_endAfter (by simp))
        · rename_i htime
          obtain ⟨hage, hrecent⟩ := not_not.mp htime
          split at hresult
          · subst hresult
            exact absurd h (no_motion_endAfter (by simp))
          · subst hresult
            obtain ⟨policy, tail, hemits, htail, hsignature, hover⟩ :=
              motion_of_forward contract (by simp [Quiet]) h
            have hsame : l = linear ∧ a = angular := by
              rw [hemits] at h
              simp only [List.cons_append, List.nil_append, List.mem_cons, reduceCtorEq, false_or,
                Emit.publish.injEq, and_true] at h
              rcases h with h | h
              · exact h
              · exact absurd rfl ((htail _ h).1 l a)
            exact ⟨hsame.1, hsame.2, not_le.mp hseq, lastReceived, policy, tail, hlast, hage,
              hrecent, hsignature, hover, hemits, htail⟩

/-- What one call must have been for motion to leave it. -/
def MotionCall (s : TeleopSession Context) (call : TeleopCall Context × Answers)
    (emits : List (Emit Context)) (linear angular : ℚ) : Prop :=
  ∃ fields context receivedAt id seq lastReceived policy tail,
    call.1 = .frame (.obj fields) context receivedAt ∧
    s.commandId = some id ∧ Json.get fields "command_id" = .str id ∧
    s.acknowledged = true ∧ s.context = some context ∧
    Json.get fields "seq" = .int seq ∧ s.sequence < seq ∧
    isfinite (Json.get fields "linear") = .finite linear ∧
    isfinite (Json.get fields "angular") = .finite angular ∧
    contract.linear.contains linear = true ∧ contract.angular.contains angular = true ∧
    s.lastReceived = some lastReceived ∧ 0 ≤ call.2.clock 0 - lastReceived ∧
    call.2.clock 0 - lastReceived < contract.timeout ∧
    some policy.signature = s.policySignature ∧ policy.exceeds linear angular = false ∧
    emits = [.sampled (call.2.clock 0), .accepted seq, .resolved (.ok policy), .safety none,
      .publish linear angular true] ++ tail ∧ (∀ e ∈ tail, Quiet e)

theorem motion_of_frame {s : TeleopSession Context} {data : Json} {context : Context}
    {receivedAt : ℚ} {answers : Answers}
    {result : TeleopSession Context × List (Emit Context)} {l a : ℚ}
    (hresult : s.frame contract data context receivedAt answers = result)
    (h : .publish l a true ∈ result.2) :
    MotionCall contract s (.frame data context receivedAt, answers) result.2 l a := by
  unfold frame at hresult
  split at hresult
  · rename_i fields
    split at hresult
    · subst hresult
      simp at h
    · rename_i id hid
      split at hresult
      · subst hresult
        simp at h
      · rename_i hname
        split at hresult
        · subst hresult
          simp at h
        · rename_i hack
          split at hresult
          · subst hresult
            exact absurd h (no_motion_endAfter (by simp))
          · rename_i hcontext
            split at hresult
            · subst hresult
              exact absurd h (no_motion_endAfter (by simp))
            · split at hresult
              · subst hresult
                simp at h
              · subst hresult
                exact absurd h (no_motion_endAfter (by simp))
              · rename_i seq linear angular deadman hcheck
                obtain ⟨hseq, hlinear, hangular, -, hinLinear, hinAngular⟩ :=
                  limits_of_checkSample contract hcheck
                obtain ⟨rfl, rfl, hnewer, lastReceived, policy, tail, hlast, hage, hrecent,
                  hsignature, hover, hemits, htail⟩ := motion_of_acceptSample contract hresult h
                exact ⟨fields, context, receivedAt, id, seq, lastReceived, policy, tail, rfl, hid,
                  namesSession_iff.mp (by simpa using hname), by simpa using hack,
                  (not_not.mp hcontext).symm, hseq, hnewer, hlinear, hangular, hinLinear,
                  hinAngular, hlast, hage, hrecent, hsignature, hover, hemits, htail⟩
  · subst hresult
    exact absurd h (no_motion_endAfter (by simp))

/-- **Inversion.**  Motion leaves only `frame`, and only past all its checks. -/
theorem motion_of_step {s : TeleopSession Context} {call : TeleopCall Context × Answers}
    {l a : ℚ} (h : .publish l a true ∈ (step contract s call).2) :
    MotionCall contract s call (step contract s call).2 l a := by
  obtain ⟨call, answers⟩ := call
  cases call with
  | start data context receivedAt deferAck confirming =>
    exact absurd h (no_motion_start contract)
  | confirmStart context => exact absurd h (no_motion_confirmStart contract)
  | frame data context receivedAt => exact motion_of_frame contract rfl h
  | tick context => exact absurd h (no_motion_tick contract)
  | endSession reason outcome => exact absurd rfl ((quiet_of_mem_endSession h).1 l a)

end Methods

end TeleopSession

open TeleopSession

/-! ### The safety property of whole runs -/

/-- What has to be true of a motion sample, given the observer's record `w` at
    the start of the call that publishes it. -/
def PublicationCovered (contract : TeleopContract) (w : SessionWatch Context)
    (call : TeleopCall Context × Answers) (emits : List (Emit Context))
    (linear angular : ℚ) : Prop :=
  ∃ fields context receivedAt, call.1 = .frame (.obj fields) context receivedAt ∧
  ∃ id signature confirmedAt,
    w.opening = some (id, context, signature) ∧ w.confirmedAt = some confirmedAt ∧
    Json.get fields "command_id" = .str id ∧
    (∃ seq, Json.get fields "seq" = .int seq ∧ .accepted seq ∈ emits ∧
      ∀ earlier ∈ w.accepted, earlier < seq) ∧
    (finiteNumber (Json.get fields "linear") = some linear ∧
      contract.linear.min ≤ linear ∧ linear ≤ contract.linear.max) ∧
    (finiteNumber (Json.get fields "angular") = some angular ∧
      contract.angular.min ≤ angular ∧ angular ≤ contract.angular.max) ∧
    (∃ policy, .resolved (.ok policy) ∈ emits ∧
      (∀ answer, .resolved answer ∈ emits → answer = .ok policy) ∧
      policy.signature = signature ∧
      |linear| ≤ policy.maxLinear + RuntimePolicy.tolerance ∧
      |angular| ≤ policy.maxAngular + RuntimePolicy.tolerance) ∧
    (.safety none ∈ emits ∧ ∀ answer, .safety answer ∈ emits → answer = none) ∧
    (∃ now, .sampled now ∈ emits ∧ now = call.2.clock 0 ∧
      now - max confirmedAt (w.publishedAt.getD confirmedAt) < contract.timeout)

/-- A number inside an interval of the contract is published as it came:
    `float` changes nothing there. -/
theorem finiteNumber_of_contains {limits : Limits} {value : Json} {q : ℚ}
    (h : isfinite value = .finite q) (hin : limits.contains q = true) :
    finiteNumber value = some q := by
  cases value with
  | int n =>
    simp only [isfinite] at h
    split at h
    · cases h
      obtain ⟨hmin, hmax⟩ := Limits.contains_iff.mp hin
      have hlow : (-2 ^ 53 : ℚ) ≤ n := le_trans limits.exact.1 hmin
      have hhigh : (n : ℚ) ≤ 2 ^ 53 := le_trans hmax limits.exact.2
      have hlow' : (-2 ^ 53 : Int) ≤ n := by exact_mod_cast hlow
      have hhigh' : n ≤ (2 ^ 53 : Int) := by exact_mod_cast hhigh
      exact floatOfInt_of_small (by omega)
    · cases h
  | float x =>
    cases x with
    | finite q' =>
      simp only [isfinite, Finite.finite.injEq] at h
      simp only [finiteNumber, h]
    | inf negative => cases h
    | nan => cases h
  | null | bool _ | str _ | list _ | obj _ => cases h

theorem covered_of_motionCall {contract : TeleopContract} {w : SessionWatch Context}
    {s : TeleopSession Context} (htracks : Tracks w s) {call : TeleopCall Context × Answers}
    {emits : List (Emit Context)} {linear angular : ℚ}
    (h : MotionCall contract s call emits linear angular) :
    PublicationCovered contract w call emits linear angular := by
  obtain ⟨fields, context, receivedAt, id, seq, lastReceived, policy, tail, hcall, hid, hname,
    hack, hcontext, hseq, hnewer, hlinear, hangular, hinLinear, hinAngular, hlast, hage, hrecent,
    hsignature, hover, hemits, htail⟩ := h
  obtain ⟨context', signature, hopening, hcontext', hsignature'⟩ := htracks.opening id hid
  obtain ⟨confirmedAt, hconfirmed, hle, hlast'⟩ := htracks.confirmed hack
  have hsame : context' = context := by
    rw [hcontext] at hcontext'
    exact (Option.some.inj hcontext').symm
  subst hsame
  refine ⟨fields, context', receivedAt, hcall, id, signature, confirmedAt, hopening, hconfirmed,
    hname, ⟨seq, hseq, by simp [hemits], fun earlier hearlier => ?_⟩,
    ⟨finiteNumber_of_contains hlinear hinLinear, Limits.contains_iff.mp hinLinear⟩,
    ⟨finiteNumber_of_contains hangular hinAngular, Limits.contains_iff.mp hinAngular⟩,
    ⟨policy, by simp [hemits], fun answer hanswer => ?_, ?_,
      RuntimePolicy.exceeds_eq_false.mp hover⟩,
    ⟨by simp [hemits], fun answer hanswer => ?_⟩, call.2.clock 0, by simp [hemits], rfl, ?_⟩
  · exact lt_of_le_of_lt (htracks.accepted earlier hearlier) hnewer
  · simp only [hemits, List.cons_append, List.nil_append, List.mem_cons, reduceCtorEq, false_or,
      Emit.resolved.injEq] at hanswer
    rcases hanswer with hanswer | hanswer
    · exact hanswer
    · exact absurd rfl ((htail _ hanswer).2.2 answer)
  · rw [hsignature'] at hsignature
    exact Option.some.inj hsignature
  · simp only [hemits, List.cons_append, List.nil_append, List.mem_cons, reduceCtorEq, false_or,
      Emit.safety.injEq] at hanswer
    rcases hanswer with hanswer | hanswer
    · exact hanswer
    · exact absurd rfl ((htail _ hanswer).2.1 answer)
  · have hlatest : lastReceived = w.publishedAt.getD confirmedAt := by
      rw [hlast] at hlast'
      exact Option.some.inj hlast'
    rw [max_eq_right hle, ← hlatest]
    exact hrecent

variable [DecidableEq Context]

/-- **Run lemma.**  The session agrees with its observer after every run. -/
theorem tracks_run (contract : TeleopContract) (calls : List (TeleopCall Context × Answers)) :
    Tracks (SessionWatch.ofHistory ((teleopSession Context contract).trace {} calls))
      ((teleopSession Context contract).run {} calls) := by
  refine (teleopSession Context contract).history_invariant
    (fun history s => Tracks (SessionWatch.ofHistory history) s) ?_ ?_
    ((teleopSession Context contract).along_true {} calls)
  · intro history s call _ h
    rw [SessionWatch.ofHistory_concat]
    exact tracks_step contract h call
  · exact ⟨fun _ => rfl, by simp, by simp [SessionWatch.ofHistory], fun _ => rfl, by simp⟩

/-- **Publication safety.**  In every run of method calls, with arbitrary data,
    contexts, receipt times and answers, every motion sample is published by a
    `frame` call of the open, acknowledged session and covered by what the
    session was opened with, by this call's policy and safety answers and by
    the watchdog. -/
theorem publication_covered (contract : TeleopContract)
    (calls : List (TeleopCall Context × Answers))
    (before after : List ((TeleopCall Context × Answers) × List (Emit Context)))
    (call : TeleopCall Context × Answers) (emits : List (Emit Context))
    (hrun : (teleopSession Context contract).trace {} calls = before ++ (call, emits) :: after)
    (linear angular : ℚ) (hmotion : .publish linear angular true ∈ emits) :
    PublicationCovered contract (SessionWatch.ofHistory before) call emits linear angular := by
  obtain ⟨earlier, call', later, -, hbefore, hsegment⟩ :=
    (teleopSession Context contract).exists_of_trace_eq hrun
  obtain ⟨rfl, rfl⟩ := Prod.mk.inj hsegment
  subst hbefore
  exact covered_of_motionCall (tracks_run contract earlier) (motion_of_step contract hmotion)

/-- A session opened, confirmed and driven with one sample publishes it. -/
theorem publish_of_first_sample {id : String}
    (hid : TeleopSession.canonicalUuid id.toList = true) :
    .publish (1 / 10) 0 true ∈ ((teleopSession Nat readContract).step
      ((teleopSession Nat readContract).run {} [startRequest id false]) (motionSample id)).2 := by
  simp [teleopSession, TeleopSession.step, startRequest, motionSample, TeleopSession.start, calm,
    TeleopSession.authorizedId, Json.get, Json.lookup, TeleopSession.validId, hid,
    TeleopSession.fresh, readContract, TeleopContract.timeout, resolvePolicy,
    TeleopSession.openSession, TeleopSession.confirmStart, TeleopSession.frame,
    TeleopSession.namesSession, Json.hasExactly, TeleopSession.frameKeys,
    TeleopSession.checkSample, Json.isNumber, isfinite, floatOfInt, Limits.contains,
    TeleopSession.acceptSample, TeleopSession.forward, RuntimePolicy.exceeds,
    RuntimePolicy.tolerance, RuntimePolicy.signature]
  norm_num

theorem publication_covered_first_sample :
    PublicationCovered readContract
      (SessionWatch.ofHistory ((teleopSession Nat readContract).trace {}
        [startRequest "00000000-0000-4000-8000-000000000000" false]))
      (motionSample "00000000-0000-4000-8000-000000000000")
      ((teleopSession Nat readContract).step
        ((teleopSession Nat readContract).run {}
          [startRequest "00000000-0000-4000-8000-000000000000" false])
        (motionSample "00000000-0000-4000-8000-000000000000")).2
      (1 / 10) 0 :=
  publication_covered readContract
    [startRequest "00000000-0000-4000-8000-000000000000" false,
      motionSample "00000000-0000-4000-8000-000000000000"] _ [] _ _ rfl (1 / 10) 0
    (publish_of_first_sample (by decide))

end PatrolBot
