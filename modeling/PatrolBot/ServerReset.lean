import PatrolBot.ServerForwarding

/-!
# Uncertain outcomes

A software reset whose end is not known keeps every other request of its robot
out, and the commands whose outcome is never guessed stay in `active` until a
reply of the robot or an explicit reset ends them.  An empty command id counts
as no pending reset, so this is about runs in which no reset is under way
under it, and in which no two requests look up one new id at once.
-/

namespace PatrolBot.Server

open Coroutine Coroutine.Discipline

/-- The pending reset and the audit lookups are as `LooksUpApart` and `Unblank` say. -/
def KeepsBarrier (w : ServerWorld) (e : ServerEvent) : Prop :=
  LooksUpApart w e ∧ Unblank w.shared.toState

instance (w : ServerWorld) (e : ServerEvent) : Decidable (KeepsBarrier w e) :=
  inferInstanceAs (Decidable (_ ∧ _))

def Mode.barred : Mode where
  distinct := True
  named := True
  sturdy _ := False
  calm := False
  serial := False
  prompt := False
  reserved _ _ := False
  received _ _ _ := False
  attended _ _ := True
  distinct_of_named := id
  distinct_of_calm := False.elim
  sturdy_of_calm hc _ := hc

theorem guards_barred : Guards .barred KeepsBarrier :=
  Mode.Even.guards ⟨fun _ _ => id, fun _ _ _ => id, fun _ _ => trivial⟩
    (fun _ _ _ hguard => ⟨fun _ => hguard.2, False.elim⟩) fun _ _ _ _ hguard _ hreplies =>
      ⟨hreplies, fun _ => hguard.1, fun _ => hguard.2, False.elim, False.elim, False.elim,
        False.elim, trivial⟩

/-! ### What ends a command -/

/-- The job ends the command for a reason: its robot has rejected it or reported
    an outcome that is known, or an admitted reset supersedes it. -/
inductive Concludes (job : Job) (s : Dashboard) (x : ActiveCommand) : Prop where
  | rejected (session : Nat) (reason : Option String)
      (job_eq : job = .reply session (.ack x.commandId false reason))
      (robot : SessionOf session x.robotId s)
  | answered (session : Nat) (outcome : Outcome) (detail : Option String)
      (job_eq : job = .reply session (.result x.commandId outcome detail))
      (known : outcome ≠ .timeout) (robot : SessionOf session x.robotId s)
  | superseded (client : BrowserClient) (payload : CommandRequest)
      (job_eq : job = .request client x.robotId payload)
      (reset : payload.command = .softwareReset)
      (admitted : payload.commandId ∈ s.admitted.map Prod.fst)
      (unknown : x.command = .softwareReset → x.uncertain = true)

variable {m : Mode} {pw : Power} {t : Nat} {job : Job} {a b s : Dashboard}

/-- A command that leaves `active` in one update is closed by it. -/
theorem Act.closes (h : Act m pw t job a b) (hinv : Inv m a) (hd : m.distinct) {e : Nat}
    (ha : Open a.toState e) (hb : ¬Open b.toState e) : Closable m job a e ∧ b.entry = a.entry := by
  obtain ⟨i, hi⟩ := ha
  have hknown := hinv.active i e hi
  cases h with
  | register r session _ hregisters =>
    refine absurd ⟨i, mem_dictSet_of_ne hi fun heq => ?_⟩ hb
    exact (hregisters.fresh hd).2.1 ⟨e, hknown.1, hknown.2.trans heq⟩
  | pop e' outcome _ hlt _ hclosable _ =>
    by_cases heq : e' = e
    · exact heq ▸ ⟨hclosable, rfl⟩
    · refine absurd ⟨i, mem_dictPop.mpr ⟨hi, fun hid => heq ?_⟩⟩ hb
      exact (hinv.unique hd).entries e' e hlt hknown.1 (hid.symm.trans hknown.2.symm)
  | _ => exact absurd ⟨i, hi⟩ hb

theorem lasting_requestIds (id : String) : Lasting m fun s => id ∈ requestIds s.wire := by
  intro pw t job a b hinv hact h
  cases hact with
  | cancel robotId websocket commandId => simpa [Dashboard.write] using h
  | drive o frame _ => simpa [Dashboard.write] using h
  | request r websocket _ _ _ _ => simpa [Dashboard.forward, Dashboard.write] using .inl h
  | _ => exact h

/-- A command that is held, and sent if it is a manual one, is closed only for a reason. -/
theorem Closable.concludes {e : Nat} (h : Closable m job s e) (hd : m.distinct)
    (hheld : (s.entry e).command.held = true)
    (hsent : (s.entry e).command.manual = true → (s.entry e).commandId ∈ requestIds s.wire)
    (hn : m.named) : Concludes job s (s.entry e) := by
  cases h with
  | ordinary hordinary => simp [hheld] at hordinary
  | settled hsettles hmanual =>
    cases hsettles with
    | rejected session reason hjob hrobot => exact .rejected session reason hjob hrobot
    | answered session outcome detail hjob hknown hrobot =>
      exact .answered session outcome detail hjob hknown hrobot
    | unsent client payload hjob hstart hsame hunsent =>
      exact absurd (hsent (hmanual (by simp [hjob, Job.isRequest]))) (hunsent hd)
  | superseded hsupersedes hunknown =>
    obtain ⟨client, payload, hjob, hreset, hadmitted⟩ := hsupersedes
    exact .superseded client payload hjob hreset hadmitted (hunknown hn)

/-- A command that was ended for a reason. -/
def Concluded (job : Job) (e : Nat) (s : Dashboard) : Prop :=
  e < s.entries ∧ Concludes job s (s.entry e)

theorem lasting_concluded (job : Job) (e : Nat) : Lasting m (Concluded job e) := by
  rintro pw t job' a b hinv hact ⟨hlt, h⟩
  obtain ⟨hlt', hsame⟩ := lasting_known e (a.entry e) pw t job' a b hinv hact ⟨hlt, .refl _⟩
  refine ⟨hlt', ?_⟩
  cases h with
  | rejected session reason hjob hrobot =>
    refine .rejected session reason (by rw [hsame.commandId]; exact hjob) ?_
    rw [hsame.robotId]
    exact lasting_sessionOf session _ pw t job' a b hinv hact hrobot
  | answered session outcome detail hjob hknown hrobot =>
    refine .answered session outcome detail (by rw [hsame.commandId]; exact hjob) hknown ?_
    rw [hsame.robotId]
    exact lasting_sessionOf session _ pw t job' a b hinv hact hrobot
  | superseded client payload hjob hreset hid hunknown =>
    refine .superseded client payload (by rw [hsame.robotId]; exact hjob) hreset ?_ fun hcommand =>
      hsame.uncertain (hunknown (hsame.command ▸ hcommand))
    obtain ⟨p, hp, hpid⟩ := List.mem_map.mp hid
    have hadmitted := lasting_admitted p.1 p.2 pw t job' a b hinv hact hp
    exact hpid ▸ List.mem_map_of_mem (f := Prod.fst) hadmitted

/-! ### Runs -/

/-- The pending reset is the only one of its robot. -/
def OneReset (s : State) : Prop :=
  ∀ r i, s.resetPending r = some i → ∃ e, s.active.lookup i = some e ∧
    (s.entry e).command = .softwareReset ∧ (s.entry e).robotId = r ∧
    ∀ e', OpenReset s r e' → e' = e

/-- A command whose outcome is never guessed, and that has been sent if it is a
    manual one, leaves `active` only for a reason. -/
def Retains (w : ServerWorld) (event : ServerEvent) : Prop :=
  ∀ e, Open w.shared.toState e → (w.shared.entry e).command.held = true →
    ((w.shared.entry e).command.manual = true →
      (w.shared.entry e).commandId ∈ requestIds w.shared.wire) →
    ¬Open (server.next w event).shared.toState e →
    ∃ job, System.Runs w job event ∧ Concluded job e (server.next w event).shared

/-- What holds of the resets of a run and of the commands whose outcome is held. -/
structure HoldsOutcomes (audit : String → Option AuditRow) (es : List ServerEvent) : Prop where
  pending : OneReset (runServer audit es).shared.toState
  wire : ∀ f ∈ (runServer audit es).shared.wire, ResetAllows f
  retains : ∀ before event after, es = before ++ event :: after →
    Retains (runServer audit before) event

theorem Inv.oneReset {m : Mode} {s : Dashboard} (hinv : Inv m s) (hn : m.named) :
    OneReset s.toState := by
  intro r i hi
  have hbarrier := hinv.barrier hn
  have hunique := hinv.unique (m.distinct_of_named hn)
  obtain ⟨e, he, hcommand, hrobot⟩ := hbarrier.pending r i hi
  have honly : ∀ e', (i, e') ∈ s.active → e' = e := fun e' he' =>
    hunique.entries e' e (hinv.active i e' he').1 (hinv.active i e he).1
      ((hinv.active i e' he').2.trans (hinv.active i e he).2.symm)
  obtain ⟨e', hlookup⟩ := exists_lookup_of_mem he
  obtain rfl := honly e' (mem_of_lookup hlookup)
  refine ⟨e', hlookup, hcommand, hrobot, ?_⟩
  rintro e'' ⟨⟨j, hj⟩, hcommand', hrobot'⟩
  have hpending := hbarrier.reset j e'' hj hcommand'
  rw [hrobot', hi, Option.some.injEq] at hpending
  exact honly e'' (hpending ▸ hj)

/-- One step of a run. -/
theorem retains_next {w : ServerWorld} (hw : Orderly (discipline .barred) (Idle .barred) w)
    {event : ServerEvent} (hguard : KeepsBarrier w event) : Retains w event := by
  intro e hopen hheld hsent hgone
  rcases guards_barred.sound.updates hw hguard with hsame | ⟨t, job, hruns, hupdates⟩
  · exact absurd (hsame ▸ hopen) hgone
  · obtain ⟨c, d, hbefore, hinv, hact, hc, hd, hafter⟩ :=
      Updates.exists_end (P := fun s => Open s.toState e) hupdates hopen hgone
    obtain ⟨i, hi⟩ := hopen
    have hknown : Known e (w.shared.entry e) c := hbefore.keeps (P := Known e (w.shared.entry e))
      (fun a b hinv hact => lasting_known e _ _ _ _ a b hinv hact)
      ⟨(hw.inv.active i e hi).1, .refl _⟩
    obtain ⟨hclosable, hentry⟩ := hact.closes hinv trivial hc hd
    have hsent' : (c.entry e).command.manual = true →
        (c.entry e).commandId ∈ requestIds c.wire := by
      rw [hknown.2.command, hknown.2.commandId]
      exact fun hmanual => hbefore.keeps
        (P := fun s => (w.shared.entry e).commandId ∈ requestIds s.wire)
        (fun a b hinv hact => lasting_requestIds _ _ _ _ a b hinv hact) (hsent hmanual)
    have hconcluded : Concluded job e c :=
      ⟨hknown.1, hclosable.concludes trivial (by rw [hknown.2.command]; exact hheld) hsent' trivial⟩
    refine ⟨job, hruns, hafter.keeps (P := Concluded job e)
      (fun a b hinv hact => lasting_concluded job e _ _ _ a b hinv hact) ?_⟩
    exact lasting_concluded job e _ _ _ c d hinv hact hconcluded

/-- **Uncertain outcomes are held.** -/
theorem holdsOutcomes_run (audit : String → Option AuditRow) (es : List ServerEvent)
    (along : server.loop.Along KeepsBarrier (System.initial (started audit)) es) :
    HoldsOutcomes audit es where
  pending := (guards_barred.orderly along).inv.oneReset trivial
  wire := ((guards_barred.orderly along).inv.barrier trivial).wire
  retains before event after hes := by
    subst hes
    obtain ⟨hbefore, hguard, -⟩ := Machine.along_append server.loop |>.mp along
    exact retains_next (guards_barred.orderly hbefore) hguard

/-! ### A reset under the empty id -/

/-- The motors are enabled while a reset is pending. -/
def blankReset : List ServerEvent :=
  .start (.connected "robot" 7) calmly :: requested 1 "" .softwareReset ++
    requested 2 "go" .motorEnable

instance (f : Frame × State) : Decidable (ResetAllows f) :=
  match h : f.1.body with
  | .request payload => decidable_of_iff (payload.command.endsInput = true ∨
      f.2.resetPending f.1.robotId = none ∨ (payload.command = .softwareReset ∧
        f.2.resetPending f.1.robotId = some payload.commandId)) (by simp [ResetAllows, h])
  | .cancel _ => isTrue (by simp [ResetAllows, h])
  | .velocity _ _ => isTrue (by simp [ResetAllows, h])

theorem not_holdsOutcomes_of_blankReset : ¬HoldsOutcomes (fun _ => none) blankReset := by
  have hwire : ¬∀ f ∈ (runServer (fun _ => none) blankReset).shared.wire, ResetAllows f := by
    decide +kernel
  exact fun h => hwire h.wire

/-- A reset whose acceptance times out stays, and the motors stay as they are. -/
theorem holdsOutcomes_of_timeout :
    HoldsOutcomes (fun _ => none) (.start (.connected "robot" 7) calmly ::
      requested 1 "again" .softwareReset ++ [.start (.timer .ack 0 0) calmly,
        .resume 2 none calmly, .start (requestOf "go" .motorEnable) calmly]) := by
  refine holdsOutcomes_run _ _ ?_
  refine ⟨?_, ?_, ?_, ?_, ?_, ?_, ?_, ?_, ?_, trivial⟩ <;> decide +kernel

end PatrolBot.Server
