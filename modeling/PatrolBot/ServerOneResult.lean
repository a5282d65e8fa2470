import PatrolBot.ServerAnswers

/-!
# One result for an ordinary command

The close-out of a map transaction looks whether the command is still active,
tells the robot to cancel it, and then publishes a result without looking
again.  A timer is cancelled meanwhile when somebody else closes the command;
the request whose send has failed is not.
-/

namespace PatrolBot.Server

open Coroutine Coroutine.Discipline

abbrev ObservedServer := Observed Dashboard Answer Await Job Bool

/-- No two lookups under way are about one new id, and a close-out that comes back
    from telling the robot finds that no result of its command has been published. -/
def ClosesFirst (w : ObservedServer) (e : ServerEvent) : Prop :=
  LooksUpApart w.world e ∧
    match e with
    | .start .. => True
    | .resume id reply _ => ∀ task ∈ w.world.tasks, task.id = id →
        ReturnsFirst id task.job (w.mark id) w.world.shared task.op reply

instance (w : ObservedServer) (e : ServerEvent) : Decidable (ClosesFirst w e) :=
  match e with
  | .start .. => inferInstanceAs (Decidable (_ ∧ True))
  | .resume id reply _ => inferInstanceAs (Decidable (LooksUpApart w.world (.resume id reply _) ∧
      ∀ task ∈ w.world.tasks, task.id = id →
        ReturnsFirst id task.job (w.mark id) w.world.shared task.op reply))

theorem upholds_answering : Upholds (discipline .apart) answering server (Idle .apart)
    ClosesFirst where
  allows _ task _ _ hwatch hmem _ := hwatch.2 task hmem rfl
  body _ _ _ hinv _ hs hstarts := keeps_body hinv hs hstarts

/-- A server that has just started, and no task of it is marked. -/
def observedStart (audit : String → Option AuditRow) : ObservedServer :=
  ⟨System.initial (started audit), fun _ => false⟩

theorem tidy_started (audit : String → Option AuditRow) :
    Tidy (started audit) (started audit) := by
  refine ⟨⟨?_, ?_, fun id _ => rfl⟩, ?_, .of_eq rfl⟩
  · intro e he
    simp [started] at he
  · rintro e ⟨i, hi⟩
    simp [started] at hi
  · intro i x hx
    simp [started] at hx

theorem upkept_started (audit : String → Option AuditRow) :
    Upkept (discipline .apart) answering (observedStart audit) where
  fact := tidy_started audit
  upheld _ h := absurd h List.not_mem_nil
  blank _ _ := rfl

/-- No ordinary command has more than one result. -/
def OneResult (s : Dashboard) : Prop :=
  ∀ e, e < s.entries → Ordinary s.toState e → results s.published (s.entry e).commandId ≤ 1

instance (s : State) (e : Nat) : Decidable (Ordinary s e) :=
  inferInstanceAs (Decidable (_ = false))

instance (s : Dashboard) : Decidable (OneResult s) :=
  inferInstanceAs (Decidable (∀ e, e < s.entries → Ordinary s.toState e →
    results s.published (s.entry e).commandId ≤ 1))

/-- **One result.** -/
theorem oneResult_run (audit : String → Option AuditRow) (es : List ServerEvent)
    (along : (server.observed sendMemory).Along ClosesFirst (observedStart audit) es) :
    OneResult (runServer audit es).shared :=
  (upholds_answering.run guards_apart.sound (fun _ _ h => h.1) (orderly_started .apart audit)
    (upkept_started audit) along).answered.once

/-! ### A robot that answers while it is told -/

/-- The surroundings know the map of the goal. -/
def mapped : Nat → Answer := fun i => { calmly i with mapRevision := fun _ => some "r1" }

/-- A map transaction whose send raises, up to its cancel frame. -/
def failedPose : List ServerEvent :=
  [.start (.connected "robot" 7) mapped,
    .start (.request operator "robot" {
      commandId := "pose"
      command := .setInitialPose
      goal := some ⟨"floor", "r1", .finite 0, .finite 0, none⟩ }) mapped,
    .resume 1 none mapped, .resume 1 none mapped, .resume 1 (some .exception) mapped]

/-- The robot has received the frame all the same, and reports its result first. -/
theorem not_oneResult_of_answer :
    ¬OneResult (runServer (fun _ => none) (failedPose ++
      [.start (.reply 1 (.result "pose" .succeeded none)) mapped,
        .resume 1 none mapped])).shared := by
  decide +kernel

/-- The close-out comes back before the robot's result. -/
theorem oneResult_of_prompt :
    OneResult (runServer (fun _ => none) (failedPose ++ [.resume 1 none mapped,
      .start (.reply 1 (.result "pose" .succeeded none)) mapped])).shared := by
  refine oneResult_run _ _ ?_
  refine ⟨?_, ?_, ?_, ?_, ?_, ?_, ?_, trivial⟩ <;> decide +kernel

end PatrolBot.Server
