import PatrolBot.ServerFrames

/-!
# Plain handlers stay within the discipline

The handlers are followed along their text.  A *plain* handler relies on no
lock and closes no command, and carries any framed fact of its caller to its
end.  Publications, statements of the database and the frames of a manual
session are plain; ending a manual session is too, and moreover leaves it
ended.
-/

namespace PatrolBot.Server

open Coroutine Coroutine.Prog Coroutine.Discipline

/-- The handler, run with that power, stays within the discipline. -/
abbrev Checks {α : Type} (m : Mode) (pw : Power) (t : Nat) (job : Job) (p : Handler α)
    (s : Dashboard) (Q : Except Interrupt α → Dashboard → Prop) : Prop :=
  (discipline m).Safe (Act m pw t job) t job p s Q

/-- How a handler may end: it raises no exception where `q` holds, and is
    cancelled only if it is a timer. -/
def Within {α : Type} (q : Prop) (job : Job) : Except Interrupt α → Prop
  | .ok _ => True
  | .error .exception => ¬q
  | .error .cancelled => job.isTimer = true

/-- The handler is plain from that state on. -/
def PlainFrom {α : Type} (m : Mode) (q : Prop) (t : Nat) (job : Job) (s : Dashboard)
    (p : Handler α) : Prop :=
  ∀ F, Framed m .plain t job F → Inv m s → F s →
    Checks m .plain t job p s fun r s' => F s' ∧ Within q job r

section

variable {m : Mode} {pw : Power} {t : Nat} {job : Job} {s : Dashboard} {α β : Type} {q : Prop}

theorem Within.imp {q' : Prop} {r : Except Interrupt α} (h : Within q job r) (hq : q' → q) :
    Within q' job r := by
  match r with
  | .ok _ => trivial
  | .error .exception => exact fun hq' => h (hq hq')
  | .error .cancelled => exact h

theorem Within.error {x : Interrupt} (h : Within q job (.error x : Except Interrupt α)) :
    Within q job (.error x : Except Interrupt β) := by
  cases x with
  | exception => exact h
  | cancelled => exact h

/-- No reply of the runs under consideration ends a handler in another way. -/
theorem Resumes.within {op : Await} {x : Interrupt} (h : Resumes m t job s op (some x)) :
    Within (m.sturdy t ∧ op.isDatabase = true) job (.error x : Except Interrupt α) := by
  cases x with
  | exception => exact fun hq => h.sturdy hq.1 hq.2 rfl
  | cancelled =>
    have hreply := h.replies
    simp only [PatrolBot.Server.replies] at hreply
    split at hreply
    · rename_i hcancelled
      cases job with
      | timer kind entry timer => rfl
      | _ => simp [isCancelled] at hcancelled
    · simp at hreply

theorem Checks.weaken {p : Handler α} {pw' : Power} {Q R : Except Interrupt α → Dashboard → Prop}
    (hle : pw.Le pw') (hinv : Inv m s) (h : Checks m pw t job p s Q)
    (hQ : ∀ r s, Inv m s → Q r s → R r s) : Checks m pw' t job p s R :=
  Safe.mono (fun _ _ hact => hact.mono hle) hQ hinv h

/-- An await carries what is framed. -/
theorem checks_wait {F : Dashboard → Prop} (hF : Framed m pw t job F) (hs : F s) {op : Await} :
    Checks m pw t job (Prog.wait op : Handler Unit) s fun r s' =>
      F s' ∧ Within (m.sturdy t ∧ op.isDatabase = true) job r := by
  obtain ⟨P, hP, hFP, hback⟩ := hF.carried
  exact Safe.wait P (hFP s hs) hP (fun s' hinv' hs' hr => ⟨hback s' op none hinv' hs' hr, trivial⟩)
    fun x s' hinv' hs' hr => ⟨hback s' op (some x) hinv' hs' hr, hr.within⟩

theorem checks_given {c : Prop} [Decidable c] {p : Handler Unit}
    {Q : Except Interrupt Unit → Dashboard → Prop} (hdo : c → Checks m pw t job p s Q)
    (helse : ¬c → Q (.ok ()) s) : Checks m pw t job (given c p) s Q := by
  unfold given
  split
  · exact hdo ‹_›
  · exact helse ‹_›

namespace PlainFrom

theorem ret (a : α) : PlainFrom m q t job s (Prog.ret a : Handler α) :=
  fun _ _ _ hF => ⟨hF, trivial⟩

theorem raise {x : Interrupt} (hx : Within q job (.error x : Except Interrupt α)) :
    PlainFrom m q t job s (Prog.raise x : Handler α) :=
  fun _ _ _ hF => ⟨hF, hx⟩

theorem fail (hq : ¬q) : PlainFrom m q t job s (Prog.raise .exception : Handler α) :=
  .raise hq

theorem bind {p : Handler α} {f : α → Handler β} (hp : PlainFrom m q t job s p)
    (hf : ∀ a s', PlainFrom m q t job s' (f a)) : PlainFrom m q t job s (p >>= f) :=
  fun F hF hinv hs => (hp F hF hinv hs).bind hinv (fun a s' hinv' hs' => hf a s' F hF hinv' hs'.1)
    (fun _ _ _ hs' => ⟨hs'.1, hs'.2.error⟩)

theorem tryCatch {q' : Prop} {p : Handler α} {handle : Interrupt → Handler α}
    (hp : PlainFrom m q' t job s p)
    (hhandle : ∀ x s', Within q' job (.error x : Except Interrupt α) →
      PlainFrom m q t job s' (handle x)) :
    PlainFrom m q t job s (p.tryCatch handle) :=
  fun F hF hinv hs => (hp F hF hinv hs).tryCatch hinv (fun _ _ _ hs' => ⟨hs'.1, trivial⟩)
    (fun x s' hinv' hs' => hhandle x s' hs'.2 F hF hinv' hs'.1)

theorem read {f : Dashboard → Handler β} (h : PlainFrom m q t job s (f s)) :
    PlainFrom m q t job s (Prog.read >>= f) :=
  fun F hF hinv hs => h F hF hinv hs

theorem answer {f : Answer → Handler β}
    (h : ∀ a, (∀ n, ¬m.reserved a.uuid n) → PlainFrom m q t job s (f a)) :
    PlainFrom m q t job s (Prog.answer >>= f) :=
  fun F hF hinv hs a ha => h a ha F hF hinv hs

theorem modify {g : Dashboard → Dashboard} (h : Inv m s → Act m .plain t job s (g s)) :
    PlainFrom m q t job s (Prog.modify g : Handler Unit) :=
  fun _ hF hinv hs => ⟨h hinv, fun _ => ⟨hF.kept _ _ hinv (h hinv) hs, trivial⟩⟩

theorem modifyThen {g : Dashboard → Dashboard} {f : Unit → Handler β}
    (h : Inv m s → Act m .plain t job s (g s)) (hf : PlainFrom m q t job (g s) (f ())) :
    PlainFrom m q t job s (Prog.modify g >>= f) :=
  fun F hF hinv hs => ⟨h hinv, fun hinv' => hf F hF hinv' (hF.kept _ _ hinv (h hinv) hs)⟩

theorem given {c : Prop} [Decidable c] {p : Handler Unit} (h : c → PlainFrom m q t job s p) :
    PlainFrom m q t job s (Prog.given c p) := by
  unfold Prog.given
  split
  · exact h ‹_›
  · exact .ret ()

theorem givenModifyThen {c : Prop} [Decidable c] {g : Dashboard → Dashboard}
    {f : Unit → Handler β} (h : c → Inv m s → Act m .plain t job s (g s))
    (hf : ∀ s', s' = g s ∨ s' = s → PlainFrom m q t job s' (f ())) :
    PlainFrom m q t job s (Prog.given c (Prog.modify g) >>= f) := by
  unfold Prog.given
  split
  · exact .modifyThen (h ‹_›) (hf _ (.inl rfl))
  · exact hf s (.inr rfl)

/-- An await that is no call of the database may raise. -/
theorem wait (op : Await) : PlainFrom m False t job s (Prog.wait op : Handler Unit) :=
  fun _ hF hinv hs => (checks_wait hF hs).post hinv fun _ _ _ h => ⟨h.1, h.2.imp False.elim⟩

theorem waitDatabase {op : Await} (hop : op.isDatabase = true) :
    PlainFrom m (m.sturdy t) t job s (Prog.wait op : Handler Unit) :=
  fun _ hF hinv hs => (checks_wait hF hs).post hinv fun _ _ _ h =>
    ⟨h.1, h.2.imp fun hq => ⟨hq, hop⟩⟩

/-- A plain handler may be called with any power that may issue commands. -/
theorem checks {p : Handler α} {F : Dashboard → Prop} (hp : PlainFrom m q t job s p)
    (hF : Framed m .plain t job F) (hissues : pw.issues) (hinv : Inv m s) (hs : F s) :
    Checks m pw t job p s fun r s' => F s' ∧ Within q job r :=
  Checks.weaken (Power.plain_le hissues) hinv (hp F hF hinv hs) fun _ _ _ h => h

end PlainFrom

/-! ### Publications, statements, frames -/

/-- Nothing happens. -/
theorem Act.stay : Act m pw t job s s :=
  .aside s.baseGeneration s.connected s.holders s.lidarRecoveryRequired s.lidarStateAfter s.seen
    s.revisions s.closedSockets (fun _ h => .inl h) (fun _ => le_rfl) fun _ h => h

theorem plain_publish {p : Publication} (hp : p.closes = none) (hc : p.isConnection = false) :
    PlainFrom m q t job s (publish p) :=
  .modify fun _ => .announce p hp hc

theorem plain_publishReply (robotId : String) (payload : RobotReply) :
    PlainFrom m q t job s (publishReply robotId payload) :=
  plain_publish rfl rfl

theorem plain_execute {statement : Dashboard → Dashboard}
    (h : Inv m s → Act m .plain t job s (statement s)) :
    PlainFrom m (m.sturdy t) t job s (execute statement) := by
  refine .answer fun a _ => ?_
  cases a.statement with
  | done => exact .modifyThen h (.waitDatabase rfl)
  | lost => exact .waitDatabase rfl
  | late => exact .modifyThen h (.waitDatabase rfl)

/-- A call of the database that fails does not return. -/
theorem checks_failed {F : Dashboard → Prop} {G : Dashboard → Prop} (hF : Framed m pw t job F)
    (hs : F s) :
    Checks m pw t job (Prog.wait (.statement true) : Handler Unit) s fun x s' =>
      F s' ∧ Within (m.sturdy t) job x ∧ (x = .ok () → G s') := by
  obtain ⟨P, hP, hFP, hback⟩ := hF.carried
  refine Safe.wait P (hFP s hs) hP ?_ ?_
  · exact fun s' _ _ hr => absurd hr.replies (by simp [replies])
  · exact fun x s' hinv' hs' hr => ⟨hback s' _ _ hinv' hs' hr,
      hr.within.imp fun hq => ⟨hq, rfl⟩, by simp⟩

/-- What a statement establishes is there when its call has returned. -/
theorem checks_execute {F G : Dashboard → Prop} (hF : Framed m pw t job F)
    (hG : Framed m pw t job G) (hinv : Inv m s) {statement : Dashboard → Dashboard}
    (hact : Act m pw t job s (statement s)) (hs : F s) (hs' : G (statement s)) :
    Checks m pw t job (execute statement) s fun x s' =>
      F s' ∧ Within (m.sturdy t) job x ∧ (x = .ok () → G s') := by
  have hF' := hF.kept _ _ hinv hact hs
  refine Safe.answerThen fun a _ => ?_
  cases a.statement with
  | done =>
    refine Safe.modifyThen hact fun hinv' => ?_
    exact (checks_wait (hF.and hG) ⟨hF', hs'⟩).post hinv' fun _ _ _ h =>
      ⟨h.1.1, h.2.imp fun hq => ⟨hq, rfl⟩, fun _ => h.1.2⟩
  | lost => exact checks_failed hF hs
  | late => exact Safe.modifyThen hact fun _ => checks_failed hF hF'

theorem plain_emitEvent (robotId severity title message : String) :
    PlainFrom m (m.sturdy t) t job s (emitEvent robotId severity title message none) :=
  .bind (plain_publish rfl rfl) fun _ _ => plain_execute fun _ => .stay

theorem plain_rejectAudited (client : BrowserClient) (robotId : String) {commandId : String}
    (command reason : String) (hspares : m.Spares commandId t) :
    PlainFrom m (m.sturdy t) t job s (rejectAudited client robotId commandId command reason) :=
  .bind (plain_execute fun _ => .insert commandId _ hspares) fun _ _ => plain_publishReply _ _

theorem plain_suppress {p : Handler Unit} (hp : PlainFrom m False t job s p) :
    PlainFrom m q t job s (suppress p) :=
  hp.tryCatch fun x _ hx => by
    cases x with
    | exception => exact .ret ()
    | cancelled => exact .raise hx

theorem plain_cancelMap (e : Nat) : PlainFrom m q t job s (cancelMap e) := by
  refine .read ?_
  dsimp only
  split
  · split
    · exact plain_suppress (.modifyThen (fun _ => .cancel _ _ _) (.wait _))
    · exact .ret _
  · exact .ret _

/-! ### Manual sessions -/

theorem Waits.of_same {x y : ManualOwner} (hstops : y.stopIds = x.stopIds)
    (hstart : y.startTerminal = x.startTerminal) : Waits m job s x y where
  stops _ _ hi := .inl (hstops ▸ hi)
  stopped _ hi := .inl (hstops.symm ▸ hi)
  start h := .inl (hstart ▸ h)
  started h := hstart.symm ▸ h

/-- The owner takes a new value that carries the old one. -/
theorem Act.setOwner {o : Nat} {owner : ManualOwner} (h : Carries (s.owner o) owner)
    (hwaits : Waits m job s (s.owner o) owner) : Act m pw t job s (s.setOwner o owner) := by
  refine .manual _ (fun o' => ?_) fun o' => ?_
  · by_cases heq : o' = o
    · subst heq
      simpa using h
    · simpa [heq] using Carries.refl _
  · by_cases heq : o' = o
    · subst heq
      simpa using hwaits
    · simpa [heq] using Waits.of_same rfl rfl

theorem Act.setPhase {o : Nat} {phase : Phase}
    (h : phase.live = true → (s.owner o).phase.live = true) :
    Act m pw t job s (s.setPhase o phase) :=
  .setOwner ⟨rfl, rfl, rfl, rfl, rfl, rfl, rfl, h, le_rfl, .refl _, .inl⟩ (.of_same rfl rfl)

theorem Act.setEntry {e : Nat} {entry : ActiveCommand} (hinv : Inv m s)
    (h : SameCommand (s.entry e) entry) : Act m pw t job s (s.setEntry e entry) := by
  refine .mark (Function.update s.entry e entry) s.timers (fun e' => ?_) hinv.timers
  by_cases heq : e' = e
  · subst heq
    simpa using h
  · simpa [heq] using SameCommand.refl _

theorem Act.setSendLock {o : Nat} {lock : Lock Velocity}
    (h : (waitingSeqs lock).Sublist (waitingSeqs (s.owner o).sendLock)) :
    Act m pw t job s (s.setSendLock o lock) :=
  .setOwner ⟨rfl, rfl, rfl, rfl, rfl, rfl, rfl, id, le_rfl, h, .inl⟩ (.of_same rfl rfl)

theorem Act.bumpRevision (robotId : String) : Act m pw t job s (bumpRevision robotId s) := by
  refine .aside s.baseGeneration s.connected s.holders s.lidarRecoveryRequired s.lidarStateAfter
    s.seen _ s.closedSockets (fun _ h => .inl h) (fun r => ?_) fun _ h => h
  by_cases hr : r = robotId
  · simp [hr]
  · simp [hr]

theorem Act.forgetOwner (robotId : String) : Act m pw t job s (forgetOwner robotId s) := by
  unfold PatrolBot.Server.forgetOwner
  split
  · exact .setPhase (by simp [Phase.live])
  · exact .stay

@[simp] theorem forgetOwner_active (robotId : String) (s : Dashboard) :
    (forgetOwner robotId s).active = s.active := by
  unfold forgetOwner
  split <;> rfl

theorem plain_markUncertain (e : Nat) (detail : String) :
    PlainFrom m (m.sturdy t) t job s (markUncertain e detail) := by
  refine .read ?_
  dsimp only
  split
  · rename_i hactive
    refine .modifyThen (fun hinv => .setEntry hinv ⟨rfl, rfl, rfl, fun _ => rfl⟩) ?_
    -- Neither the phase nor the publication takes the command out of `active`.
    refine .givenModifyThen (fun _ _ => .forgetOwner _) fun s' hs' => ?_
    have hsame : s'.active = s.active := by
      rcases hs' with rfl | rfl
      · exact forgetOwner_active _ _
      · rfl
    refine .modifyThen (fun _ => .announce _ rfl rfl)
      (plain_execute fun _ => .complete _ _ _ fun _ => .inl ?_)
    simpa [State.isActive, Dashboard.publish, hsame] using hactive
  · exact .ret _

/-! ### Frames of a manual session -/

/-- A deadman frame is the latest of its session. -/
def Latest (o : Nat) (frame : Velocity) (s : Dashboard) : Prop :=
  frame.deadman = true → o < s.ownerCount ∧ frame.seq ≤ (s.owner o).seq ∧
    ∀ q ∈ driveSeqs s.wire o ++ waitingSeqs (s.owner o).sendLock, q < frame.seq

/-- A deadman frame comes after all that were sent and before all that wait. -/
def Next (o : Nat) (frame : Velocity) (s : Dashboard) : Prop :=
  frame.deadman = true → o < s.ownerCount ∧ frame.seq ≤ (s.owner o).seq ∧
    (∀ q ∈ driveSeqs s.wire o, q < frame.seq) ∧
    ∀ q ∈ waitingSeqs (s.owner o).sendLock, frame.seq < q

theorem Latest.next {o : Nat} {frame : Velocity} (h : Latest o frame s)
    (hfree : (s.owner o).sendLock.free = true) : Next o frame s := by
  intro hdeadman
  obtain ⟨hlt, hseq, hlast⟩ := h hdeadman
  refine ⟨hlt, hseq, fun q hq => hlast q (List.mem_append_left _ hq), ?_⟩
  have hnone : (s.owner o).sendLock.waiters = [] := by
    simpa [Lock.free] using (Bool.and_eq_true_iff.mp hfree).2
  simp [waitingSeqs, hnone]

/-- A frame whose turn it is, with the order of the frames that wait. -/
theorem Inv.next_of_turn (hinv : Inv m s) {o : Nat} {frame : Velocity}
    (hprepared : frame.deadman = true → Prepared o s)
    (hturn : (s.owner o).sendLock.turn t frame = true) :
    Next o frame (s.setSendLock o ((s.owner o).sendLock.take t)) := by
  intro hdeadman
  have hlt := hprepared hdeadman
  obtain ⟨hsorted, hle⟩ := hinv.seqs o hlt
  have hhead : (s.owner o).sendLock.waiters.head? = some (t, frame) := by
    simpa using (Bool.and_eq_true_iff.mp hturn).2
  obtain ⟨rest, hrest⟩ : ∃ rest, (s.owner o).sendLock.waiters = (t, frame) :: rest :=
    List.head?_eq_some_iff.mp hhead
  have hwaiting : waitingSeqs (s.owner o).sendLock =
      frame.seq :: waitingSeqs ((s.owner o).sendLock.take t) := by
    simp [waitingSeqs, Lock.take, hrest, hdeadman]
  rw [hwaiting] at hsorted hle
  obtain ⟨-, hwaits, hcross⟩ := List.pairwise_append.mp hsorted
  refine ⟨hlt, ?_, fun q hq => hcross q hq _ (by simp), ?_⟩
  · simpa [Dashboard.setSendLock, Dashboard.setOwner] using hle frame.seq (by simp)
  · simpa [Dashboard.setSendLock, Dashboard.setOwner] using (List.pairwise_cons.mp hwaits).1

theorem checks_acquireSendLock {F : Dashboard → Prop} (hF : Framed m .plain t job F)
    (hinv : Inv m s) (hs : F s) {o : Nat} {frame : Velocity} (hlatest : Latest o frame s) :
    Checks m .plain t job (acquireSendLock t o frame) s fun r s' =>
      F s' ∧ Within False job r ∧ (r = .ok () → Next o frame s') := by
  refine Safe.readThen ?_
  dsimp only
  split
  · rename_i hfree
    have hact : Act m .plain t job s (s.setSendLock o ((s.owner o).sendLock.enter t)) :=
      .setSendLock (.refl _)
    refine Safe.modify hact fun _ => ⟨hF.kept _ _ hinv hact hs, trivial, fun _ hdeadman => ?_⟩
    simpa [Dashboard.setSendLock, Dashboard.setOwner] using hlatest.next hfree hdeadman
  · have hact : Act m .plain t job s (s.setSendLock o ((s.owner o).sendLock.queue t frame)) :=
      .wait o frame hlatest
    refine Safe.modifyThen hact fun hinv' => ?_
    have hs' := hF.kept _ _ hinv hact hs
    have hG : Framed m .plain t job fun s' => F s' ∧ (frame.deadman = true → Prepared o s') :=
      hF.and (.imp fun _ => (lasting_prepared o).framed)
    -- The wait itself: the caller's fact, and that the session exists.
    have hwait : Checks m .plain t job ((Prog.wait (.sendLock o frame)).tryCatch fun x => do
        Prog.modify fun s => s.setSendLock o ((s.owner o).sendLock.leave t)
        raise x) (s.setSendLock o ((s.owner o).sendLock.queue t frame)) fun r s' =>
          F s' ∧ Within False job r ∧ (r = .ok () → (frame.deadman = true → Prepared o s') ∧
            (s'.owner o).sendLock.turn t frame = true) := by
      obtain ⟨P, hP, hGP, hback⟩ := hG.carried
      refine Safe.tryCatch (Q := fun r s' => F s' ∧ Within False job r ∧ (r = .ok () →
        (frame.deadman = true → Prepared o s') ∧
          (s'.owner o).sendLock.turn t frame = true)) hinv' ?_ (fun _ _ _ h => h) ?_
      · refine Safe.wait P (hGP _ ⟨hs', fun hdeadman => (hlatest hdeadman).1⟩) hP ?_ ?_
        · intro s' hinv'' hs' hr
          obtain ⟨hs', hprepared⟩ := hback s' _ _ hinv'' hs' hr
          refine ⟨hs', trivial, fun _ => ⟨hprepared, ?_⟩⟩
          have hreply := hr.replies
          simp only [replies] at hreply
          split at hreply
          · simp at hreply
          · exact hreply
        · exact fun x s' hinv'' hs' hr => ⟨(hback s' _ _ hinv'' hs' hr).1,
            hr.within.imp False.elim, by simp⟩
      · rintro x s' hinv' ⟨hs', hx, -⟩
        have hleave : Act m .plain t job s'
            (s'.setSendLock o ((s'.owner o).sendLock.leave t)) :=
          .setSendLock (List.filter_sublist.filterMap _)
        exact Safe.modifyThen hleave fun _ => ⟨hF.kept _ _ hinv' hleave hs', hx, by simp⟩
    refine Safe.bind hinv' hwait ?_ (fun _ _ _ h => ⟨h.1, h.2.1, by simp⟩)
    rintro ⟨⟩ s' hinv' ⟨hs', -, hturn⟩
    obtain ⟨hprepared, hturn⟩ := hturn rfl
    have htake : Act m .plain t job s' (s'.setSendLock o ((s'.owner o).sendLock.take t)) :=
      .setSendLock ((List.tail_sublist _).filterMap _)
    exact Safe.modify htake fun _ => ⟨hF.kept _ _ hinv' htake hs', trivial,
      fun _ => hinv'.next_of_turn hprepared hturn⟩

theorem checks_checkedSend {F : Dashboard → Prop} (hF : Framed m .plain t job F) (hinv : Inv m s)
    (hs : F s) {o : Nat} {frame : Velocity} (hnext : Next o frame s) :
    Checks m .plain t job (checkedSend o frame) s fun r s' => F s' ∧ Within False job r := by
  refine Safe.readThen ?_
  dsimp only
  split
  · exact Safe.ret ⟨hs, trivial⟩
  · rename_i hchecks
    have hact : Act m .plain t job s
        (s.write ⟨(s.owner o).robotId, (s.owner o).websocket, .velocity o frame⟩) := by
      refine .drive o frame fun hdeadman => ?_
      obtain ⟨hlt, hseq, hwritten, hwaiting⟩ := hnext hdeadman
      simp only [hdeadman, true_and, not_or, not_not, ne_eq] at hchecks
      exact ⟨hlt, hchecks.2.1, hchecks.1, hchecks.2.2, hseq, hwritten, hwaiting⟩
    refine Safe.modifyThen hact fun hinv' => ?_
    have hs' := hF.kept _ _ hinv hact hs
    exact PlainFrom.bind (.wait _) (fun _ _ => .read (.ret _)) F hF hinv' hs'

/-- `send` raises nothing: a frame that cannot be sent is reported as such. -/
theorem checks_send {F : Dashboard → Prop} (hF : Framed m .plain t job F) (hinv : Inv m s)
    (hs : F s) {o : Nat} {frame : Velocity} (hlatest : Latest o frame s) :
    Checks m .plain t job (send t o frame) s fun r s' => F s' ∧ Within True job r := by
  refine Safe.tryCatch hinv (Q := fun r s' => F s' ∧ Within False job r) ?_
    (fun _ _ _ h => ⟨h.1, trivial⟩) ?_
  · refine Safe.bind hinv (checks_acquireSendLock hF hinv hs hlatest) ?_
      (fun _ _ _ h => ⟨h.1, h.2.1.error⟩)
    rintro ⟨⟩ s' hinv' ⟨hs', -, hnext⟩
    refine Safe.andFinally hinv' (checks_checkedSend hF hinv' hs' (hnext rfl)) ?_
    intro r s'' hinv'' hs''
    have hrelease : Act m .plain t job s''
        (s''.setSendLock o (s''.owner o).sendLock.release) := .setSendLock (.refl _)
    exact Safe.modify hrelease fun _ => ⟨hF.kept _ _ hinv'' hrelease hs''.1, hs''.2⟩
  · intro x s' _ hs'
    cases x with
    | exception => exact ⟨hs'.1, trivial⟩
    | cancelled => exact ⟨hs'.1, hs'.2⟩

/-! ### Ending manual input -/

/-- The handler ends the manual session of the robot at once, whatever it then
    waits for: what follows from that holds at its end. -/
def Ends {α : Type} (m : Mode) (t : Nat) (job : Job) (robotId : String) (p : Handler α) : Prop :=
  ∀ F G s, Framed m .plain t job F → Framed m .plain t job G → Inv m s →
    (∀ s', Inv m s' → F s' → NotDriven s'.toState robotId → G s') → F s →
    Checks m .plain t job p s fun r s' => G s' ∧ Within (m.sturdy t) job r

theorem Ends.plain {robotId : String} {p : Handler α} (h : Ends m t job robotId p) :
    PlainFrom m (m.sturdy t) t job s p :=
  fun F hF hinv hs => h F F s hF hF hinv (fun _ _ hs' _ => hs') hs

/-- What comes after does not bring the session back. -/
theorem Ends.bind {robotId : String} {p : Handler α} {f : α → Handler β}
    (h : Ends m t job robotId p) (hf : ∀ a s, PlainFrom m (m.sturdy t) t job s (f a)) :
    Ends m t job robotId (p >>= f) :=
  fun F G s hF hG hinv hend hs => Safe.bind hinv (h F G s hF hG hinv hend hs)
    (fun a s' hinv' hs' => hf a s' G hG hinv' hs'.1) fun _ _ _ hs' => ⟨hs'.1, hs'.2.error⟩

theorem plain_zero (o : Nat) (owner : ManualOwner) :
    PlainFrom m (m.sturdy t) t job s (send t o (zeroFrame owner)) :=
  fun _ hF hinv hs => (checks_send hF hinv hs fun hdeadman => by
    simp [zeroFrame] at hdeadman).post hinv fun _ _ _ h => ⟨h.1, h.2.imp fun _ => trivial⟩

theorem ends_endInput (robotId : String) (zeroSent : Bool) :
    Ends m t job robotId (endInput t robotId zeroSent) := by
  intro F G s hF hG hinv hend hs
  have hbump : Act m .plain t job s (bumpRevision robotId s) := .bumpRevision robotId
  refine Safe.modifyThen hbump fun hinv' => Safe.readThen ?_
  have hs' := hF.kept _ _ hinv hbump hs
  generalize bumpRevision robotId s = s at hinv' hs' ⊢
  cases howner : s.owners.lookup robotId with
  | none =>
    refine Safe.ret ⟨hend s hinv' hs' fun o ho => ?_, trivial⟩
    simp [howner] at ho
  | some o =>
    dsimp only
    have hclosed : Checks m .plain t job
        (given ((s.owner o).phase ≠ .unknown) (Prog.modify (·.setPhase o .closing)) : Handler Unit)
        s fun r s' => G s' ∧ Within (m.sturdy t) job r := by
      refine checks_given (fun _ => ?_) fun hphase => ⟨hend s hinv' hs' fun o' ho' => ?_, trivial⟩
      · have hclose : Act m .plain t job s (s.setPhase o .closing) :=
          .setPhase (by simp [Phase.live])
        refine Safe.modify hclose fun hinv'' => ⟨?_, trivial⟩
        refine hend _ hinv'' (hF.kept _ _ hinv' hclose hs') fun o' ho' => ?_
        obtain rfl : o' = o := Option.some.inj (ho'.symm.trans howner)
        simp [Dashboard.setPhase, Dashboard.setOwner, Phase.live]
      · obtain rfl : o' = o := Option.some.inj (ho'.symm.trans howner)
        simp only [ne_eq, not_not] at hphase
        simp [hphase, Phase.live]
    refine Safe.bind hinv' hclosed ?_ (fun _ _ _ h => ⟨h.1, h.2.error⟩)
    rintro ⟨⟩ s' hinv'' ⟨hs'', -⟩
    refine PlainFrom.bind (.given fun _ => ?_) (fun _ _ => .ret _) G hG hinv'' hs''
    exact .bind (plain_zero o _) fun sent _ => .given fun _ =>
      .modify fun _ => .setPhase (by simp [Phase.live])

theorem plain_issueStop {request : BrowserClient → String → CommandRequest → Handler Unit}
    (hrequest : ∀ client robotId payload s, payload.command = .teleopStop →
      (∀ n, ¬m.reserved payload.commandId n) →
      PlainFrom m (m.sturdy t) t job s (request client robotId payload))
    (robotId : String) (o : Nat) :
    PlainFrom m (m.sturdy t) t job s (issueStop request robotId o) := by
  refine .read ?_
  split
  · refine .modifyThen (fun _ => .setOwner
      ⟨rfl, rfl, rfl, rfl, rfl, rfl, rfl, id, le_rfl, .refl _, .inl⟩ (.of_same rfl rfl)) ?_
    split
    · exact .answer fun a ha => hrequest _ _ _ _ rfl ha
    · exact .modify fun _ => .setPhase (by simp [Phase.live])
  · exact .ret _

end

end PatrolBot.Server
