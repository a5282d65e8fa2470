import PatrolBot.ServerSafety

/-!
# Manual sessions

A robot's manual session and its autonomous commands exclude each other, and a
drive frame reaches the robot only under the session it belongs to: while that
session is active, bound to the connection it was prepared on, and under its
operator's lease.
-/

namespace PatrolBot.Server

open Coroutine Coroutine.Discipline

/-! ### Exclusion -/

/-- A robot with a pending or active manual session has no autonomous command
    under way. -/
def Excludes (s : State) : Prop :=
  ∀ r o, s.owners.lookup r = some o → (s.owner o).phase.live = true →
    ∀ e, Open s e → (s.entry e).robotId = r → (s.entry e).command.autonomous = false

/-- **Exclusion.** -/
theorem excludes_run (audit : String → Option AuditRow) (es : List ServerEvent) :
    Excludes (runServer audit es).shared.toState := by
  intro r o ho hlive e hopen hrobot
  by_contra hcommand
  have hended := (inv_run audit es).exclusive e hopen (by simpa using hcommand) o (hrobot ▸ ho)
  simp [hended] at hlive

/-! ### Drive frames -/

/-- What a manual session captured when it was prepared. -/
structure SameCapture (x y : ManualOwner) : Prop where
  commandId : y.commandId = x.commandId
  client : y.client = x.client
  robotId : y.robotId = x.robotId
  session : y.session = x.session
  websocket : y.websocket = x.websocket
  generation : y.generation = x.generation
  baseGeneration : y.baseGeneration = x.baseGeneration

theorem SameCapture.refl (x : ManualOwner) : SameCapture x x := ⟨rfl, rfl, rfl, rfl, rfl, rfl, rfl⟩

theorem SameCapture.trans {x y z : ManualOwner} (h : SameCapture x y) (h' : SameCapture y z) :
    SameCapture x z :=
  ⟨h'.commandId.trans h.commandId, h'.client.trans h.client, h'.robotId.trans h.robotId,
    h'.session.trans h.session, h'.websocket.trans h.websocket, h'.generation.trans h.generation,
    h'.baseGeneration.trans h.baseGeneration⟩

/-- How a manual session may go on: it keeps what it captured, and once it has
    ended it stays so and sends no drive frame. -/
structure GoesOn (o : Nat) (a b : Dashboard) : Prop where
  known : o < b.ownerCount
  captured : SameCapture (a.owner o) (b.owner o)
  ended : (a.owner o).phase.live = false →
    (b.owner o).phase.live = false ∧ driveSeqs b.wire o = driveSeqs a.wire o

theorem GoesOn.refl {o : Nat} {a : Dashboard} (h : o < a.ownerCount) : GoesOn o a a :=
  ⟨h, .refl _, fun hended => ⟨hended, rfl⟩⟩

theorem GoesOn.trans {o : Nat} {a b c : Dashboard} (h : GoesOn o a b) (h' : GoesOn o b c) :
    GoesOn o a c where
  known := h'.known
  captured := h.captured.trans h'.captured
  ended hended := by
    obtain ⟨hended, hdrives⟩ := h.ended hended
    exact ⟨(h'.ended hended).1, (h'.ended hended).2.trans hdrives⟩

/-- One update. -/
theorem Act.goesOn {m : Mode} {pw : Power} {t : Nat} {job : Job} {a b : Dashboard}
    (h : Act m pw t job a b) {o : Nat} (hlt : o < a.ownerCount) : GoesOn o a b := by
  cases h with
  | cancel robotId websocket commandId =>
    exact ⟨hlt, .refl _, fun hended => ⟨hended, by simp [Dashboard.write]⟩⟩
  | request r websocket _ _ _ _ =>
    exact ⟨hlt, .refl _, fun hended => ⟨hended, by simp [Dashboard.forward, Dashboard.write]⟩⟩
  | manual owner hcarries _ =>
    have hc := hcarries o
    refine ⟨hlt, ⟨hc.commandId, hc.client, hc.robotId, hc.session, hc.websocket, hc.generation,
      hc.baseGeneration⟩, fun hended => ⟨?_, rfl⟩⟩
    cases hlive : (owner o).phase.live with
    | false => rfl
    | true => simp [hc.phase hlive] at hended
  | wait o' frame _ =>
    by_cases heq : o = o'
    · subst heq
      refine ⟨hlt, ?_, fun hended => ⟨?_, rfl⟩⟩
      · constructor <;> simp [Dashboard.setSendLock, Dashboard.setOwner]
      · simpa [Dashboard.setSendLock, Dashboard.setOwner] using hended
    · refine ⟨hlt, ?_, fun hended => ⟨?_, rfl⟩⟩
      · constructor <;> simp [Dashboard.setSendLock, Dashboard.setOwner, heq]
      · simpa [Dashboard.setSendLock, Dashboard.setOwner, heq] using hended
  | prepare owner _ _ _ _ _ _ _ =>
    have hne := Nat.ne_of_lt hlt
    refine ⟨Nat.lt_succ_of_lt hlt, ?_, fun hended => ⟨?_, rfl⟩⟩
    · simpa [Function.update_of_ne hne] using SameCapture.refl (a.owner o)
    · simpa [Function.update_of_ne hne] using hended
  | drive o' frame hdrive =>
    refine ⟨hlt, .refl _, fun hended => ⟨hended, ?_⟩⟩
    simp only [Dashboard.write, driveSeqs_append, driveSeqs_velocity]
    split
    · rename_i heq
      obtain ⟨rfl, hdeadman⟩ := heq
      simp [(hdrive hdeadman).2.1, Phase.live] at hended
    · simp
  | _ => exact ⟨hlt, .refl _, fun hended => ⟨hended, rfl⟩⟩

theorem goesOn_of_moves {m : Mode} {a b : Dashboard} (h : (discipline m).Moves a b) {o : Nat}
    (hlt : o < a.ownerCount) : GoesOn o a b := by
  induction h with
  | refl => exact .refl hlt
  | tail _ hstep ih =>
    obtain ⟨-, id, job, hact⟩ := hstep
    exact ih.trans (hact.goesOn ih.known)

/-- The drive frames of a run, and how its manual sessions go on after a part of it. -/
structure DrivesCovered (before after : Dashboard) : Prop where
  covered : ∀ f ∈ after.wire, DriveCovered f
  increasing : ∀ o, (driveSeqs after.wire o).Pairwise (· < ·)
  goesOn : ∀ o, o < before.ownerCount → GoesOn o before after

/-- **Drive frames.** -/
theorem drivesCovered_run (audit : String → Option AuditRow) (es es' : List ServerEvent) :
    DrivesCovered (runServer audit es).shared (runServer audit (es ++ es')).shared where
  covered := (inv_run audit (es ++ es')).drives
  increasing o := by
    have hinv := inv_run audit (es ++ es')
    by_cases hlt : o < (runServer audit (es ++ es')).shared.ownerCount
    · exact (List.pairwise_append.mp (hinv.seqs o hlt).1).1
    · simp [hinv.undriven o (Nat.le_of_not_lt hlt)]
  goesOn o hlt := by
    have hmoves := guards_any.sound.moves (orderly_run audit es)
      (server.loop.along_true _ es')
    rw [runServer_append]
    exact goesOn_of_moves hmoves hlt

end PatrolBot.Server
