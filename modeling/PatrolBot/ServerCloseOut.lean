import PatrolBot.ServerForwarding

/-!
# Close-outs

Whoever closes a command completes its audit row and reports its end in an
event.  The exception is a timer that closes its own command: the close-out
cancels the command's timers and with them the task it runs in, which ends at
its next await, before the event.
-/

namespace PatrolBot.Server

open Coroutine Coroutine.Discipline

/-- No call of the database raises. -/
def DatabaseWorks (w : ServerWorld) : ServerEvent → Prop
  | .start .. => True
  | .resume id reply _ => ∀ task ∈ w.tasks, task.id = id → task.op.isDatabase = true →
      reply ≠ some .exception

instance (w : ServerWorld) (e : ServerEvent) : Decidable (DatabaseWorks w e) :=
  match e with
  | .start .. => isTrue trivial
  | .resume id reply _ => inferInstanceAs (Decidable (∀ task ∈ w.tasks, task.id = id →
      task.op.isDatabase = true → reply ≠ some .exception))

/-- The event does not let a timer close its own command. -/
def LeavesToOthers (w : ServerWorld) : ServerEvent → Prop
  | .start job _ => ¬ClosesOnWaking w.shared.toState job
  | .resume id _ _ => ∀ task ∈ w.tasks, task.id = id → ¬ClosesOnReturn w.shared.toState task.job

instance (s : State) (job : Job) : Decidable (ClosesOnWaking s job) := by
  cases job <;> unfold ClosesOnWaking <;> infer_instance

instance (s : State) (job : Job) : Decidable (ClosesOnReturn s job) := by
  cases job <;> unfold ClosesOnReturn <;> infer_instance

instance (w : ServerWorld) (e : ServerEvent) : Decidable (LeavesToOthers w e) :=
  match e with
  | .start job _ => inferInstanceAs (Decidable ¬ClosesOnWaking w.shared.toState job)
  | .resume id _ _ => inferInstanceAs (Decidable (∀ task ∈ w.tasks, task.id = id →
      ¬ClosesOnReturn w.shared.toState task.job))

/-- The steps in which every close-out runs to its end. -/
def ClosesCalmly (w : ServerWorld) (e : ServerEvent) : Prop :=
  DatabaseWorks w e ∧ LooksUpApart w e ∧ LeavesToOthers w e

instance (w : ServerWorld) (e : ServerEvent) : Decidable (ClosesCalmly w e) :=
  inferInstanceAs (Decidable (_ ∧ _ ∧ _))

def Mode.calmed : Mode where
  distinct := True
  named := False
  sturdy _ := True
  calm := True
  serial := False
  prompt := False
  reserved _ _ := False
  received _ _ _ := False
  attended _ _ := True
  distinct_of_named := False.elim
  distinct_of_calm := id
  sturdy_of_calm hc _ := hc

theorem guards_calmed : Guards .calmed ClosesCalmly :=
  Mode.Even.guards ⟨fun _ _ => id, fun _ _ _ => id, fun _ _ => trivial⟩
    (fun _ _ _ hguard => ⟨False.elim, fun _ => hguard.2.2⟩)
    fun _ task _ _ hguard hmem hreplies =>
      ⟨hreplies, fun _ => hguard.2.1, False.elim, fun _ => hguard.1 task hmem rfl,
        fun _ => hguard.2.2 task hmem rfl, False.elim, False.elim, trivial⟩

/-- Every command that has left `active` has one terminal outcome, with which its
    audit row is completed and, unless it is a success, exactly one event reports
    its end; or the task that closes it is still suspended at that. -/
def ClosesOut (w : ServerWorld) : Prop :=
  ∀ e, e < w.shared.entries → ¬Open w.shared.toState e → ∃ outcome,
    (∀ outcome', (e, outcome') ∈ w.shared.closed ↔ outcome' = outcome) ∧
    (Complete w.shared.toState e outcome ∨ ∃ task ∈ w.tasks, (e, task.id) ∈ w.shared.closing)

/-- **Close-outs.** -/
theorem closesOut_run (audit : String → Option AuditRow) (es : List ServerEvent)
    (along : server.loop.Along ClosesCalmly (System.initial (started audit)) es) :
    ClosesOut (runServer audit es) := by
  have horderly := guards_calmed.orderly along
  have hcloseOuts := horderly.inv.closeOuts trivial
  intro e hlt hgone
  obtain ⟨outcome, hclosed⟩ := (hcloseOuts.left e hlt).resolve_left hgone
  refine ⟨outcome, fun outcome' => ⟨fun h => hcloseOuts.once e outcome' outcome h hclosed,
    fun h => h ▸ hclosed⟩, ?_⟩
  rcases (hcloseOuts.closed e outcome hclosed).2.2 with ⟨t, hclosing⟩ | hcomplete
  · right
    by_contra hnone
    refine horderly.final t (fun task htask heq => hnone ⟨task, htask, ?_⟩) trivial e hclosing
    exact heq ▸ hclosing
  · exact .inl hcomplete

/-! ### A timer that closes its own command -/

/-- The robot does not answer the stop, and its acceptance times out. -/
def unansweredStop : List ServerEvent :=
  .start (.connected "robot" 7) calmly :: requested 1 "halt" .stop ++
    [.start (.timer .ack 0 0) calmly, .resume 2 (some .cancelled) calmly]

theorem not_closesOut_of_timeout :
    ¬ClosesOut (runServer (fun _ => none) unansweredStop) := by
  have hgone : 0 < (runServer (fun _ => none) unansweredStop).shared.entries ∧
      (runServer (fun _ => none) unansweredStop).shared.active = [] := by decide +kernel
  have hclosed : (runServer (fun _ => none) unansweredStop).shared.closed = [(0, .timeout)] := by
    decide +kernel
  have hreports : reports (runServer (fun _ => none) unansweredStop).shared.published 0 = 0 ∧
      (runServer (fun _ => none) unansweredStop).tasks.length = 0 := by decide +kernel
  intro h
  have hshut : ¬Open (runServer (fun _ => none) unansweredStop).shared.toState 0 := by
    simp [Open, hgone.2]
  obtain ⟨outcome, honly, hdone⟩ := h 0 hgone.1 hshut
  obtain rfl : Outcome.timeout = outcome := (honly .timeout).mp (by simp [hclosed])
  rcases hdone with hcomplete | ⟨task, htask, -⟩
  · have hreported := hcomplete.2 (by simp)
    omega
  · rw [List.eq_nil_of_length_eq_zero hreports.2] at htask
    simp at htask

/-- The robot reports that the stop failed. -/
theorem closesOut_of_result :
    ClosesOut (runServer (fun _ => none)
      (.start (.connected "robot" 7) calmly :: requested 1 "halt" .stop ++
      [.start (.reply 1 (.result "halt" .failed none)) calmly, .resume 2 none calmly,
        .resume 2 none calmly])) := by
  refine closesOut_run _ _ ?_
  refine ⟨?_, ?_, ?_, ?_, ?_, ?_, ?_, ?_, ?_, trivial⟩ <;> decide +kernel

end PatrolBot.Server
