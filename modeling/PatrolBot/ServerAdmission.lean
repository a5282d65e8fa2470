import PatrolBot.ServerClosing

/-!
# Admission stays within the discipline

The way of a request through admission, from its registration and its frame
back to its first check.  The facts admission establishes under the robot's
lock (`Cleared`) are carried to the registration; the id is the task's own to
issue from the moment it is entered into the audit.
-/

namespace PatrolBot.Server

open Coroutine Coroutine.Prog Coroutine.Discipline

section

variable {m : Mode} {pw : Power} {t : Nat} {job : Job} {s : Dashboard} {α : Type}
  {F : Dashboard → Prop}

/-- A handler that may close commands is not at it. -/
def Unclosing (m : Mode) (pw : Power) (t : Nat) (s : Dashboard) : Prop := pw.closes → Idle m t s

theorem framed_unclosing {pw' : Power} (hcloses : ¬pw'.closes) :
    Framed m pw' t job (Unclosing m pw t) :=
  .imp fun _ => framed_idle hcloses

/-- The handler keeps the facts of its caller and leaves no command half closed. -/
abbrev Serves (m : Mode) (pw : Power) (t : Nat) (job : Job) (F : Dashboard → Prop)
    (p : Handler α) (s : Dashboard) : Prop :=
  Checks m pw t job p s fun x s' => F s' ∧ Unclosing m pw t s' ∧ Within (m.sturdy t) job x

/-- A plain handler serves. -/
theorem PlainFrom.serves {p : Handler α} (hp : PlainFrom m (m.sturdy t) t job s p)
    (hF : Framed m pw t job F) (hissues : pw.issues) (hinv : Inv m s) (hs : F s)
    (hidle : Unclosing m pw t s) : Serves m pw t job F p s :=
  (hp.checks ((hF.plain hissues).and (framed_unclosing id)) hissues hinv ⟨hs, hidle⟩).post hinv
    fun _ _ _ h => ⟨h.1.1, h.1.2, h.2⟩

/-- What a request brings along and what its handler is allowed. -/
structure Admits (m : Mode) (pw : Power) (t : Nat) (job : Job) (r : Incoming) : Prop where
  holds : r.payload.command.endsInput = false → ∀ a, ownLock t a r.robotId → pw.holds a r.robotId
  issues : pw.issues
  closes : r.payload.command ≠ .teleopStop → pw.closes
  job_eq : r.payload.command ≠ .teleopStop → job = .request r.client r.robotId r.payload
  spares : m.Spares r.payload.commandId t
  received : r.payload.command = .teleopStart → ∀ robotId revision,
    m.received t robotId revision → robotId = r.robotId ∧ revision = r.revision

variable {r : Incoming}

theorem Admits.not_timer (h : Admits m pw t job r) (hcommand : r.payload.command ≠ .teleopStop) :
    job.isTimer = false := by
  rw [h.job_eq hcommand]
  rfl

/-! ### The frame -/

/-- The frame of the request may be handed to a socket. -/
structure Sendable (m : Mode) (t : Nat) (r : Incoming) (s : Dashboard) : Prop where
  fresh : m.distinct → (r.payload.commandId, t) ∈ s.admitted ∧
    Issued s.toState r.payload.commandId ∧ r.payload.commandId ∉ requestIds s.wire
  reset : m.named → r.payload.command.endsInput = true ∨ s.resetPending r.robotId = none ∨
    (r.payload.command = .softwareReset ∧
      s.resetPending r.robotId = some r.payload.commandId)
  received : r.payload.command = .teleopStart → ∀ robotId revision,
    m.received t robotId revision → s.revisions robotId = revision

theorem Sendable.act (h : Sendable m t r s) (hissues : pw.issues) (websocket : Nat) :
    Act m pw t job s (s.forward t (r.frame websocket) r.payload) := by
  refine .request r websocket hissues h.fresh (fun hn => ?_) h.received
  intro payload hpayload
  simp only [Incoming.frame, FrameBody.request.injEq] at hpayload
  subst hpayload
  exact h.reset hn

/-- What was published, and handed to a socket, stays so. -/
theorem Act.observed {a b : Dashboard} (h : Act m pw t job a b) :
    (∃ more, b.published = a.published ++ more) ∧ (∃ more, b.forwarded = a.forwarded ++ more) ∧
      ∃ more, b.wire = a.wire ++ more := by
  have hsame : ∀ {α : Type} (l : List α), ∃ more, l = l ++ more := fun l => ⟨[], by simp⟩
  cases h with
  | connection r state _ _ => exact ⟨⟨[_], rfl⟩, hsame _, hsame _⟩
  | announce p _ _ => exact ⟨⟨[p], rfl⟩, hsame _, hsame _⟩
  | report p e _ _ => exact ⟨⟨[p], rfl⟩, hsame _, hsame _⟩
  | request r websocket _ _ _ _ => exact ⟨hsame _, ⟨[_], rfl⟩, ⟨[_], rfl⟩⟩
  | cancel robotId websocket commandId => exact ⟨hsame _, hsame _, ⟨[_], rfl⟩⟩
  | drive o frame _ => exact ⟨hsame _, hsame _, ⟨[_], rfl⟩⟩
  | _ => exact ⟨hsame _, hsame _, hsame _⟩

/-- The task has handed the frame of the request to that socket. -/
def Sent (t : Nat) (r : Incoming) (websocket : Nat) (s : Dashboard) : Prop :=
  (t, r.payload) ∈ s.forwarded ∧ ∃ state, (r.frame websocket, state) ∈ s.wire

theorem lasting_sent (t : Nat) (r : Incoming) (websocket : Nat) :
    Lasting m (Sent t r websocket) := by
  rintro pw t' job a b _ hact ⟨hmem, state, hwire⟩
  obtain ⟨-, ⟨more, hforwarded⟩, more', hwritten⟩ := hact.observed
  constructor
  · rw [hforwarded]
    exact List.mem_append_left _ hmem
  · refine ⟨state, ?_⟩
    rw [hwritten]
    exact List.mem_append_left _ hwire

/-- The socket that `transmit` picks. -/
def Incoming.socket (r : Incoming) (session e : Nat) (s : Dashboard) : Option Nat :=
  if r.payload.command.manual then (s.entry e).robotWebsocket else (s.session session).websocket

/-- The frame has been handed to the socket that is picked in the state `s`. -/
def SentFrom (t : Nat) (r : Incoming) (session e : Nat) (s s' : Dashboard) : Prop :=
  ∀ websocket, r.socket session e s = some websocket → Sent t r websocket s'

theorem lasting_sentFrom (t : Nat) (r : Incoming) (session e : Nat) (s : Dashboard) :
    Lasting m (SentFrom t r session e s) :=
  fun pw t' job a b hinv hact h websocket hsocket =>
    lasting_sent t r websocket pw t' job a b hinv hact (h websocket hsocket)

theorem checks_transmit (hF : Framed m .plain t job F) (hinv : Inv m s) (hs : F s)
    (hsendable : Sendable m t r s) (session e : Nat) :
    Checks m .plain t job (Incoming.transmit t r session e) s fun x s' =>
      (F s' ∧ SentFrom t r session e s s') ∧ Within False job x := by
  refine Safe.readThen ?_
  dsimp only
  split
  · rename_i hnone
    refine Safe.raise ⟨⟨hs, fun websocket hsome => ?_⟩, id⟩
    exact absurd (hnone.symm.trans hsome) (by simp)
  · rename_i websocket hsome
    have hact : Act m .plain t job s (s.forward t (r.frame websocket) r.payload) :=
      hsendable.act trivial websocket
    have hG : Framed m .plain t job fun s' => F s' ∧ SentFrom t r session e s s' :=
      hF.and (lasting_sentFrom t r session e s).framed
    refine Safe.modifyThen hact fun hinv' => ?_
    refine PlainFrom.bind (.wait _) (fun _ _ => .read (.given fun _ => .fail id)) _ hG hinv' ?_
    refine ⟨hF.kept _ _ hinv hact hs, fun websocket' hsome' => ?_⟩
    obtain rfl : websocket = websocket' := Option.some.inj (hsome.symm.trans hsome')
    exact ⟨List.mem_append_right _ List.mem_cons_self, s.toState,
      List.mem_append_right _ List.mem_cons_self⟩

/-- The command is registered under the request's id. -/
structure Registered (r : Incoming) (e : Nat) (s : Dashboard) : Prop where
  known : e < s.entries
  command : (s.entry e).command = r.payload.command
  robotId : (s.entry e).robotId = r.robotId
  active : (r.payload.commandId, e) ∈ s.active

/-- What the handlers may be used for that `handle` is given as `revoke`. -/
abbrev Revokes (m : Mode) (t : Nat) (job : Job) (revoke : String → Bool → Handler Unit) : Prop :=
  ∀ robotId issue, Ends m t job robotId (revoke robotId issue)

variable {revoke : String → Bool → Handler Unit}

/-- What is known of a request on its way through admission, and of the handlers
    it uses.  Publications count from `n` on. -/
structure Serving (m : Mode) (pw : Power) (t : Nat) (job : Job) (F : Dashboard → Prop)
    (revoke : String → Bool → Handler Unit) (n : Nat) (r : Incoming) : Prop where
  admits : Admits m pw t job r
  framed : Framed m pw t job F
  revokes : Revokes m t job revoke
  began : ∀ s, F s → n ≤ s.published.length

/-- The request of a start was rejected since, or its frame was handed over. -/
def StartHandled (t : Nat) (r : Incoming) (n : Nat) (s : Dashboard) : Prop :=
  r.payload.command = .teleopStart →
    (∃ reason, Publication.reply r.robotId (.ack r.payload.commandId false reason) ∈
      s.published.drop n) ∨ (t, r.payload) ∈ s.forwarded

/-- The handler serves, and a start that it returns from has been handled. -/
abbrev Handles (m : Mode) (pw : Power) (t : Nat) (job : Job) (F : Dashboard → Prop)
    (n : Nat) (r : Incoming) (p : Handler Unit) (s : Dashboard) : Prop :=
  Checks m pw t job p s fun x s' => F s' ∧ Unclosing m pw t s' ∧ Within (m.sturdy t) job x ∧
    (x = .ok () → StartHandled t r n s')

variable {n : Nat}

theorem lasting_startHandled (t : Nat) (r : Incoming) (n : Nat) :
    Lasting m (StartHandled t r n) := by
  intro pw t' job a b _ hact h hstart
  obtain ⟨⟨more, hpublished⟩, ⟨more', hforwarded⟩, -⟩ := hact.observed
  rcases h hstart with ⟨reason, hmem⟩ | hmem
  · refine .inl ⟨reason, ?_⟩
    rw [hpublished, List.drop_append]
    exact List.mem_append_left _ hmem
  · refine .inr ?_
    rw [hforwarded]
    exact List.mem_append_left _ hmem

theorem lasting_began (n : Nat) : Lasting m fun s => n ≤ s.published.length := by
  intro pw t job a b _ hact h
  obtain ⟨⟨more, hpublished⟩, -⟩ := hact.observed
  rw [hpublished, List.length_append]
  exact Nat.le_trans h (Nat.le_add_right _ _)

theorem startHandled_of_ack (hn : n ≤ s.published.length) (reason : Option String) :
    StartHandled t r n (s.publish (.reply r.robotId (.ack r.payload.commandId false reason))) := by
  refine fun _ => .inl ⟨reason, ?_⟩
  simp [Dashboard.publish, List.drop_append_of_le_length hn]

theorem handles_reject (hS : Serving m pw t job F revoke n r) (hinv : Inv m s) (hs : F s)
    (hidle : Unclosing m pw t s) (reason : String) :
    Handles m pw t job F n r (r.reject reason) s := by
  have hG : Framed m .plain t job fun s' => F s' ∧ Unclosing m pw t s' :=
    (hS.framed.plain hS.admits.issues).and (framed_unclosing id)
  refine Safe.bind hinv (PlainFrom.checks (plain_execute fun _ => .insert _ _ hS.admits.spares) hG
    hS.admits.issues hinv ⟨hs, hidle⟩) ?_ fun _ _ _ h => ⟨h.1.1, h.1.2, h.2.error, by simp⟩
  rintro ⟨⟩ s₁ hinv₁ ⟨⟨hs₁, hidle₁⟩, -⟩
  refine Safe.modify (.announce _ rfl rfl) fun _ => ⟨?_, hidle₁, trivial, fun _ => ?_⟩
  · exact hS.framed.kept _ _ hinv₁ (.announce _ rfl rfl) hs₁
  · exact startHandled_of_ack (hS.began s₁ hs₁) _

/-- A request is also rejected after something plain. -/
theorem handles_rejectAfter (hS : Serving m pw t job F revoke n r) (hinv : Inv m s) (hs : F s)
    (hidle : Unclosing m pw t s) {p : Handler Unit} (hp : PlainFrom m (m.sturdy t) t job s p)
    (reason : String) : Handles m pw t job F n r (p >>= fun _ => r.reject reason) s := by
  refine Safe.bind hinv (hp.serves hS.framed hS.admits.issues hinv hs hidle) ?_
    fun _ _ _ h => ⟨h.1, h.2.1, h.2.2.error, by simp⟩
  rintro ⟨⟩ s₁ hinv₁ ⟨hs₁, hidle₁, -⟩
  exact handles_reject hS hinv₁ hs₁ hidle₁ reason

/-- Facts a close-out and what is plain leave as they are. -/
theorem Admits.ending_le (hA : Admits m pw t job r) (hcommand : r.payload.command ≠ .teleopStop) :
    Power.ending.Le pw :=
  ⟨fun _ _ => False.elim, False.elim, fun _ => hA.issues, fun _ => hA.closes hcommand, False.elim⟩

theorem serves_sendFailed (hA : Admits m pw t job r) (hF : Framed m pw t job F)
    (hrevoke : Revokes m t job revoke) (hinv : Inv m s) (hs : F s) (hidle : Unclosing m pw t s)
    {e : Nat} (hlt : e < s.entries) (hcommand : (s.entry e).command = r.payload.command) :
    Serves m pw t job F (Incoming.sendFailed t revoke r e) s := by
  have hplain : ∀ {p : Handler Unit}, PlainFrom m (m.sturdy t) t job s p →
      Serves m pw t job F p s :=
    fun hp => hp.serves hF hA.issues hinv hs hidle
  have hordinary : r.payload.command.held = false → r.payload.command ≠ .teleopStop →
      Serves m pw t job F (closeOut t e .failed "The robot connection dropped while sending.") s :=
    fun hheld hne => Checks.weaken (hA.ending_le hne) hinv
      (checks_closeOut (hF.mono (hA.ending_le hne)) hinv hs (hidle (hA.closes hne)) hlt
        (by rw [hcommand]; exact hheld) (fun _ _ htimer => by simp [hA.not_timer hne] at htimer)
        _ _) fun _ _ _ h => ⟨h.1, fun _ => h.2.1, h.2.2⟩
  unfold Incoming.sendFailed
  split
  · exact hplain (.bind (hrevoke _ _).plain fun _ _ => plain_markUncertain _ _)
  · exact hplain (.bind (hrevoke _ _).plain fun _ _ => plain_markUncertain _ _)
  · exact hplain (plain_markUncertain _ _)
  · exact hplain (plain_markUncertain _ _)
  · rename_i hstart hstop hlidar hreset
    refine hordinary ?_ hstop
    cases hcommand' : r.payload.command <;> simp_all [Command.held, Command.manual]

theorem createTimers_entry (e e' : Nat) (s : Dashboard) :
    SameCommand (s.entry e') ((Incoming.createTimers e s).entry e') := by
  by_cases h : e' = e
  · subst h
    simpa [Incoming.createTimers, Dashboard.setEntry] using ⟨rfl, rfl, rfl, id⟩
  · simpa [Incoming.createTimers, Dashboard.setEntry, h] using SameCommand.refl _

theorem Act.createTimers (hinv : Inv m s) {e : Nat} (hlt : e < s.entries) :
    Act m pw t job s (Incoming.createTimers e s) := by
  refine .mark _ _ (fun e' => createTimers_entry e e' s) fun timer htimer => ?_
  rcases List.mem_append.mp htimer with htimer | htimer
  · exact hinv.timers timer htimer
  · simp only [List.mem_cons, List.not_mem_nil, or_false] at htimer
    rcases htimer with rfl | rfl <;> exact hlt

theorem Sendable.ownersOnly {s' : Dashboard} (h : Sendable m t r s) (hsame : OwnersOnly s s')
    (hrevisions : s'.revisions = s.revisions) : Sendable m t r s' := by
  obtain ⟨owner, owners, revisions, rfl⟩ := hsame
  exact ⟨h.fresh, h.reset, fun hstart robotId revision hreceived =>
    (congrFun hrevisions robotId).trans (h.received hstart robotId revision hreceived)⟩

theorem Sendable.createTimers (h : Sendable m t r s) (e : Nat) :
    Sendable m t r (Incoming.createTimers e s) := by
  refine ⟨fun hd => ?_, h.reset, h.received⟩
  obtain ⟨hadmitted, ⟨e', he', hid⟩, hwire⟩ := h.fresh hd
  exact ⟨hadmitted, ⟨e', he', (createTimers_entry e e' s).commandId.trans hid⟩, hwire⟩

theorem stopPending_ownersOnly (robotId commandId : String) (s : Dashboard) :
    OwnersOnly s (stopPending robotId commandId s) ∧
      (stopPending robotId commandId s).revisions = s.revisions := by
  unfold stopPending
  split
  · exact ⟨⟨_, _, _, rfl⟩, rfl⟩
  · exact ⟨⟨_, _, _, rfl⟩, rfl⟩

theorem Registered.ownersOnly {s' : Dashboard} {e : Nat} (h : Registered r e s)
    (hsame : OwnersOnly s s') : Registered r e s' := by
  obtain ⟨owner, owners, revisions, rfl⟩ := hsame
  exact ⟨h.known, h.command, h.robotId, h.active⟩

/-- The frame is handed to the socket in the stretch in which the command is registered. -/
theorem serves_forward (hA : Admits m pw t job r) (hF : Framed m pw t job F)
    (hrevoke : Revokes m t job revoke) (hinv : Inv m s) (hs : F s) (hidle : Unclosing m pw t s)
    {e : Nat} (hregistered : Registered r e s) (hsendable : Sendable m t r s) (session : Nat) :
    Serves m pw t job (fun s' => F s' ∧ SentFrom t r session e s s')
      (Incoming.forward t revoke r session e) s := by
  have hG : Framed m .plain t job fun s' => F s' ∧ Unclosing m pw t s' :=
    (hF.plain hA.issues).and (framed_unclosing id)
  have hsent : Framed m pw t job fun s' => F s' ∧ SentFrom t r session e s s' :=
    hF.and (lasting_sentFrom t r session e s).framed
  -- The stop a manual session waits for.
  have hpending : Checks m pw t job (given (r.payload.command = .teleopStop)
      (Prog.modify (stopPending r.robotId r.payload.commandId)) : Handler Unit) s fun x s' =>
        (F s' ∧ Unclosing m pw t s') ∧ Registered r e s' ∧ Sendable m t r s' ∧
          r.socket session e s' = r.socket session e s ∧ x = .ok () := by
    refine checks_given (fun hstop => ?_) fun _ =>
      ⟨⟨hs, hidle⟩, hregistered, hsendable, rfl, rfl⟩
    have hact : ∀ {pw}, Act m pw t job s (stopPending r.robotId r.payload.commandId s) :=
      .stopPending hinv ⟨e, hregistered.active, hregistered.command.trans hstop,
        hregistered.robotId⟩
    obtain ⟨hsame, hrevisions⟩ := stopPending_ownersOnly r.robotId r.payload.commandId s
    refine Safe.modify hact fun _ => ⟨hG.kept _ _ hinv hact ⟨hs, hidle⟩,
      hregistered.ownersOnly hsame, hsendable.ownersOnly hsame hrevisions, ?_, rfl⟩
    obtain ⟨owner, owners, revisions, hsame⟩ := hsame
    rw [hsame]
    rfl
  refine Safe.bind hinv hpending ?_ (fun _ _ _ h => absurd h.2.2.2.2 (by simp))
  rintro ⟨⟩ s₁ hinv₁ ⟨hs₁, hregistered₁, hsendable₁, hsocket₁, -⟩
  have htimers : ∀ {pw}, Act m pw t job s₁ (Incoming.createTimers e s₁) :=
    .createTimers hinv₁ hregistered₁.known
  refine Safe.modifyThen htimers fun hinv₂ => ?_
  have hs₂ := hG.kept _ _ hinv₁ htimers hs₁
  have hsocket₂ : r.socket session e (Incoming.createTimers e s₁) = r.socket session e s := by
    rw [← hsocket₁]
    simp [Incoming.socket, Incoming.createTimers, Dashboard.setEntry]
  have hH : Framed m .plain t job fun s' =>
      (F s' ∧ Unclosing m pw t s') ∧ Known e (s₁.entry e) s' :=
    hG.and (lasting_known e _).framed
  have htransmitted : Checks m pw t job (Incoming.transmit t r session e)
      (Incoming.createTimers e s₁) fun x s' => (((F s' ∧ Unclosing m pw t s') ∧
        Known e (s₁.entry e) s') ∧ SentFrom t r session e s s') ∧ Within False job x :=
    Checks.weaken (Power.plain_le hA.issues) hinv₂ (checks_transmit hH hinv₂
      ⟨hs₂, hregistered₁.known, createTimers_entry e e s₁⟩ (hsendable₁.createTimers e) session e)
      fun _ _ _ h => ⟨⟨h.1.1, fun websocket hw => h.1.2 websocket (hsocket₂.trans hw)⟩, h.2⟩
  refine Safe.bind (Q := fun x s' => (F s' ∧ SentFrom t r session e s s') ∧ Unclosing m pw t s' ∧
    Within (m.sturdy t) job x) hinv₂ ?_ ?_ (fun _ _ _ h => ⟨h.1, h.2.1, h.2.2.error⟩)
  · refine Safe.tryCatch hinv₂ (Q := fun x s' => (((F s' ∧ Unclosing m pw t s') ∧
      Known e (s₁.entry e) s') ∧ SentFrom t r session e s s') ∧ Within False job x) ?_
      (fun _ _ _ h => ⟨⟨h.1.1.1.1, h.1.2⟩, h.1.1.1.2, trivial⟩) ?_
    · refine Safe.bind hinv₂ htransmitted ?_ (fun _ _ _ h => ⟨h.1, h.2.error⟩)
      exact fun _ _ _ h => ⟨h.1, trivial⟩
    · rintro x s₃ hinv₃ ⟨⟨⟨⟨hs₃, hidle₃⟩, hknown₃⟩, hsent₃⟩, hx⟩
      cases x with
      | exception =>
        refine Safe.bind hinv₃ (serves_sendFailed hA hsent hrevoke hinv₃ ⟨hs₃, hsent₃⟩ hidle₃
          hknown₃.1 (hknown₃.2.command.trans hregistered₁.command)) ?_
          (fun _ _ _ h => ⟨h.1, h.2.1, h.2.2.error⟩)
        exact fun _ _ _ h => ⟨h.1, h.2.1, trivial⟩
      | cancelled => exact ⟨⟨hs₃, hsent₃⟩, hidle₃, hx⟩
  · rintro sent s₃ hinv₃ ⟨hs₃, hidle₃, -⟩
    exact (PlainFrom.given fun _ => plain_emitEvent _ _ _ _).serves hsent hA.issues hinv₃ hs₃ hidle₃

/-! ### The registration -/

/-- What admission establishes under the robot's lock. -/
structure Cleared (m : Mode) (r : Incoming) (s : Dashboard) : Prop where
  unbarred : m.named → r.payload.command ≠ .softwareReset → Unbarred r.robotId s
  uncertain : m.named → r.payload.command = .softwareReset →
    OpenResets r.robotId (fun _ x => x.uncertain = true) s
  undriven : r.payload.command.autonomous = true ∨ r.payload.command = .softwareReset →
    NotDriven s.toState r.robotId

theorem kept_cleared (r : Incoming) : Kept m r.robotId (Cleared m r) :=
  fun pw t job a b hholds hinv hact h => {
    unbarred := fun hn hc =>
      kept_unbarred r.robotId pw t job a b hholds hinv hact (h.unbarred hn hc)
    uncertain := fun hn hc =>
      kept_openResets r.robotId (fun _ x => x.uncertain = true) (fun _ _ _ hsame => hsame.uncertain)
        pw t job a b hholds hinv hact (h.uncertain hn hc)
    undriven := fun hc => kept_notDriven r.robotId pw t job a b hholds hinv hact (h.undriven hc) }

/-- A start that is published was not revoked since it was received. -/
theorem Incoming.inputEnded_revision {a : Answer} {s : State}
    (h : r.inputEnded s a = false) : r.revision = s.revisions r.robotId := by
  unfold Incoming.inputEnded at h
  split at h
  · simp at h
  · simp only [Bool.or_eq_false_iff, decide_eq_false_iff_not, ne_eq, not_not] at h
    exact h.1.1.1.2

/-- The manual session of the robot is the one prepared for this start. -/
def Mine (r : Incoming) (session : Nat) (s : Dashboard) : Prop :=
  r.payload.command = .teleopStart → ∀ o, s.owners.lookup r.robotId = some o →
    (s.owner o).session = session

theorem kept_mine (r : Incoming) (session : Nat) : Kept m r.robotId (Mine r session) := by
  intro pw t job a b hholds hinv hact h hstart o ho
  cases hact with
  | prepare owner howner _ _ _ _ =>
    have hne : r.robotId ≠ owner.robotId := fun heq => hholds (heq ▸ howner)
    simp only [lookup_dictSet, if_neg hne] at ho
    have hlt := (hinv.owners _ o ho).1
    simpa [Nat.ne_of_lt hlt] using h hstart o ho
  | disown r' _ =>
    simp only [lookup_dictPop] at ho
    split at ho
    · simp at ho
    · exact h hstart o ho
  | manual owner hcarries _ => exact (hcarries o).session.trans (h hstart o ho)
  | wait o' frame _ =>
    by_cases heq : o = o'
    · subst heq
      simpa [Dashboard.setSendLock, Dashboard.setOwner] using h hstart o ho
    · simpa [Dashboard.setSendLock, Dashboard.setOwner, heq] using h hstart o ho
  | _ => exact h hstart o ho

/-- A start that is published has a socket to be handed to. -/
theorem Incoming.inputEnded_socket {a : Answer} (h : r.inputEnded s.toState a = false)
    {session : Nat} (hmine : ∀ o, s.owners.lookup r.robotId = some o →
      (s.owner o).session = session) : (s.session session).websocket.isSome = true := by
  unfold Incoming.inputEnded at h
  split at h
  · simp at h
  · rename_i o ho
    simp only [Bool.or_eq_false_iff, Bool.not_eq_false'] at h
    have hbound := h.1.1.2
    simp only [State.bound, Bool.and_eq_true, beq_iff_eq] at hbound
    rw [← hmine o ho, hbound.1.1.2]
    rfl

/-- What has been made sure of when the command is registered. -/
structure Admissible (m : Mode) (t : Nat) (r : Incoming) (s : Dashboard) : Prop where
  path : Path t r (Cleared m r) s
  session : HasSession r.robotId s
  fresh : m.distinct → Admitted r.payload.commandId t s ∧ Unissued r.payload.commandId s
  retired : m.named → r.payload.command = .softwareReset →
    ∀ e, ¬OpenReset s.toState r.robotId e

theorem Command.endsInput_of_autonomous {c : Command} (h : c.autonomous = true) :
    c.endsInput = false := by
  cases c <;> simp_all [Command.autonomous, Command.endsInput]

theorem Admissible.registers (h : Admissible m t r s) (hA : Admits m pw t job r) :
    Registers m pw t r s where
  admission hends := hA.holds hends s (h.path hends).1
  exclusive hauto := (h.path (Command.endsInput_of_autonomous hauto)).2.undriven (.inl hauto)
  session := h.session
  fresh hd := ⟨(h.fresh hd).1, (h.fresh hd).2.1, (h.fresh hd).2.2⟩
  reset := h.retired

theorem Admissible.sendable (h : Admissible m t r s) (session : Nat)
    (hreceived : r.payload.command = .teleopStart → ∀ robotId revision,
      m.received t robotId revision → s.revisions robotId = revision) :
    Sendable m t r (r.register session s) where
  fresh hd := ⟨(h.fresh hd).1, ⟨s.entries, Nat.lt_succ_self _, by simp⟩, (h.fresh hd).2.2⟩
  reset hn := by
    by_cases hends : r.payload.command.endsInput = true
    · exact .inl hends
    · by_cases hcommand : r.payload.command = .softwareReset
      · exact .inr (.inr ⟨hcommand, by simp [Incoming.register, hcommand]⟩)
      · have hunbarred := (h.path (by simpa using hends)).2.unbarred hn hcommand
        exact .inr (.inl (by simpa [Incoming.register, hcommand, Unbarred] using hunbarred))
  received := hreceived

theorem registered_register (r : Incoming) (session : Nat) (s : Dashboard) :
    Registered r s.entries (r.register session s) :=
  ⟨Nat.lt_succ_self _, by simp, by simp, mem_dictSet_self ..⟩

/-- A start that was taken back is closed unsent. -/
theorem handles_takeBack (hS : Serving m pw t job F revoke n r) (hinv : Inv m s) (hs : F s)
    (hidle : Unclosing m pw t s) {e : Nat} (hregistered : Registered r e s)
    (hstart : r.payload.command = .teleopStart)
    (hunsent : m.distinct → r.payload.commandId ∉ requestIds s.wire) :
    Handles m pw t job F n r (do
      terminal e
      publishReply r.robotId (.ack r.payload.commandId false
        (some "Manual input canceled before publication."))
      finish t e .canceled "Manual input canceled before publication.") s := by
  have hA := hS.admits
  have hF := hS.framed
  have hne : r.payload.command ≠ .teleopStop := by simp [hstart]
  have hid := (hinv.active _ e hregistered.active).2
  have hsettles : Settles m job s (s.entry e).commandId (s.entry e).robotId := by
    rw [hid, hregistered.robotId]
    exact .unsent r.client r.payload (hA.job_eq hne) hstart rfl hunsent
  have hG : Framed m .plain t job fun s' => F s' ∧ Unclosing m pw t s' :=
    (hF.plain hA.issues).and (framed_unclosing id)
  refine Safe.bind hinv (Checks.weaken (Power.plain_le hA.issues) hinv
    (checks_terminal hG hinv ⟨hs, hidle⟩ hsettles) fun _ _ _ h => h) ?_
    (fun _ _ _ h => absurd h.2.2.2 (by simp))
  rintro ⟨⟩ s₁ hinv₁ ⟨⟨hs₁, hidle₁⟩, hsame, hreleased, -⟩
  have hregistered₁ := hregistered.ownersOnly hsame
  have hsettles₁ := hsettles.ownersOnly hsame
  have hentry : s₁.entry e = s.entry e := by
    obtain ⟨owner, owners, revisions, rfl⟩ := hsame
    rfl
  have hact : ∀ {pw}, Act m pw t job s₁ (s₁.publish (.reply r.robotId (.ack r.payload.commandId
      false (some "Manual input canceled before publication.")))) := .announce _ rfl rfl
  refine Safe.modifyThen hact fun hinv₂ => ?_
  obtain ⟨hs₂, hidle₂⟩ := hG.kept _ _ hinv₁ hact ⟨hs₁, hidle₁⟩
  have hhandled : Framed m .closer t job fun s' => F s' ∧ StartHandled t r n s' :=
    (hF.mono (Power.closer_le (hA.closes hne))).and (lasting_startHandled t r n).framed
  refine Checks.weaken (Power.closer_le (hA.closes hne)) hinv₂ (checks_finish hhandled hinv₂
    ⟨hs₂, startHandled_of_ack (hS.began s₁ hs₁) _⟩ (hidle₂ (hA.closes hne))
    ⟨hregistered₁.known, fun _ => .settled ?_ fun _ => ?_, fun _ => ?_, fun _ htimer => ?_⟩ _ _)
    fun _ _ _ h => ⟨h.1.1, fun _ => h.2.1, h.2.2.2, fun _ => h.1.2⟩
  · have hsettles₂ : Settles m job s₁ (s₁.entry e).commandId (s₁.entry e).robotId :=
      hentry ▸ hsettles₁
    exact hsettles₂.congr rfl rfl rfl
  · have hcommand : (s₁.entry e).command = r.payload.command := hregistered₁.command
    exact (congrArg Command.manual hcommand).trans (by simp [hstart, Command.manual])
  · have hreleased₁ : Released s₁ (s₁.entry e) := hentry ▸ hreleased
    exact hreleased₁
  · simp [hA.not_timer hne] at htimer

/-- The handler serves.  When it returns, a start has been handled, and the frame
    of another request has been handed to the socket its session had. -/
abbrev Publishes (m : Mode) (pw : Power) (t : Nat) (job : Job) (F : Dashboard → Prop)
    (n : Nat) (r : Incoming) (session : Nat) (p : Handler Unit) (s : Dashboard) : Prop :=
  Checks m pw t job p s fun x s' => (F s' ∧ Unclosing m pw t s' ∧ Within (m.sturdy t) job x) ∧
    (x = .ok () → StartHandled t r n s' ∧ (r.payload.command ≠ .teleopStart → ∃ s₁, F s₁ ∧
      ∀ websocket, (s₁.session session).websocket = some websocket → Sent t r websocket s'))

theorem publishes_publishCommand (hS : Serving m pw t job F revoke n r) (hinv : Inv m s)
    (hs : F s) (hidle : Unclosing m pw t s) (hadmissible : Admissible m t r s) {session : Nat}
    (hmine : Mine r session s) :
    Publishes m pw t job F n r session (Incoming.publishCommand t revoke r session) s := by
  have hA := hS.admits
  have hF := hS.framed
  refine Safe.readThen ?_
  have hact : Act m pw t job s (r.register session s) :=
    .register r session hA.issues (hadmissible.registers hA)
  refine Safe.modifyThen hact fun hinv' => Safe.readThen (Safe.answerThen fun a _ => ?_)
  have hs' := hF.kept _ _ hinv hact hs
  have hidle' : Unclosing m pw t (r.register session s) := hidle
  split
  · rename_i hended
    refine Safe.post hinv' (handles_takeBack hS hinv' hs' hidle' (registered_register r session s)
      hended.1 fun hd => (hadmissible.fresh hd).2.2) fun _ _ _ h =>
        ⟨⟨h.1, h.2.1, h.2.2.1⟩, fun hx => ⟨h.2.2.2 hx, fun hne => absurd hended.1 hne⟩⟩
  · rename_i hended
    have hstands : r.payload.command = .teleopStart →
        r.inputEnded (r.register session s).toState a = false := fun hstart => by
      simpa [hstart] using hended
    have hsocket : r.socket session s.entries (r.register session s) =
        (s.session session).websocket := by
      unfold Incoming.socket
      split
      · rw [register_entry_self]
      · rfl
    refine Safe.post hinv' (serves_forward hA hF hS.revokes hinv' hs' hidle'
      (registered_register r session s) (hadmissible.sendable session
        fun hstart robotId revision hreceived => ?_) session) fun _ _ _ h =>
          ⟨⟨h.1.1, h.2.1, h.2.2⟩, fun _ => ⟨fun hstart => .inr ?_, fun _ =>
            ⟨s, hs, fun websocket hw => h.1.2 websocket (hsocket.trans hw)⟩⟩⟩
    · obtain ⟨rfl, rfl⟩ := hA.received hstart robotId revision hreceived
      exact (Incoming.inputEnded_revision (hstands hstart)).symm
    · obtain ⟨websocket, hw⟩ := Option.isSome_iff_exists.mp
        (Incoming.inputEnded_socket (hstands hstart) (hmine hstart))
      exact (h.1.2 websocket (hsocket.trans hw)).1

/-! ### The reset and the audit -/

/-- What an admitted reset counts on while it retires the other commands. -/
structure Retiring (m : Mode) (t : Nat) (r : Incoming) (es : List Nat) (s : Dashboard) : Prop where
  path : Path t r (fun s => Cleared m r s ∧ Unowned r.robotId s ∧
    OpenResets r.robotId (fun e _ => e ∈ es) s) s
  session : HasSession r.robotId s
  admitted : Admitted r.payload.commandId t s
  fresh : m.distinct → Admitted r.payload.commandId t s ∧ Unissued r.payload.commandId s
  known : AllKnown es s

theorem framed_retiring (r : Incoming) (es : List Nat) (hholds : ∀ a, ¬pw.holds a r.robotId)
    (hlocks : ¬pw.locks) (hissues : ¬pw.issues) :
    Framed m pw t job (Retiring m t r es) := by
  have hpath : Framed m pw t job (Path t r fun s => Cleared m r s ∧ Unowned r.robotId s ∧
      OpenResets r.robotId (fun e _ => e ∈ es) s) :=
    framed_path ((kept_cleared r).and ((kept_unowned r.robotId).and
      (kept_openResets r.robotId (fun e _ => e ∈ es) fun _ _ _ _ h => h))) hlocks hholds
  have hall := hpath.and ((lasting_hasSession r.robotId).framed.and
    (((lasting_admitted r.payload.commandId t).framed).and
    ((Framed.imp fun hd => framed_unissued hissues hd r.payload.commandId).and
    (lasting_allKnown es).framed)))
  obtain ⟨⟨P, hP, hFP, hback⟩, hkept⟩ := hall
  refine ⟨⟨P, hP, fun s h => hFP s ⟨h.path, h.session, h.admitted, h.fresh, h.known⟩, ?_⟩, ?_⟩
  · intro s op reply hinv hs hr
    obtain ⟨hpath, hsession, hadmitted, hfresh, hknown⟩ := hback s op reply hinv hs hr
    exact ⟨hpath, hsession, hadmitted, hfresh, hknown⟩
  · intro a b hinv hact h
    obtain ⟨hpath, hsession, hadmitted, hfresh, hknown⟩ := hkept a b hinv hact
      ⟨h.path, h.session, h.admitted, h.fresh, h.known⟩
    exact ⟨hpath, hsession, hadmitted, hfresh, hknown⟩

/-- A command that is closed, or of another robot, is not left to retire. -/
theorem Retiring.tail {e : Nat} {es : List Nat} (h : Retiring m t r (e :: es) s)
    (hnot : ¬OpenReset s.toState r.robotId e) : Retiring m t r es s where
  path := h.path.mono fun _ hK => ⟨hK.1, hK.2.1, fun e' he' =>
    (List.mem_cons.mp (hK.2.2 e' he')).resolve_left fun heq => hnot (heq ▸ he')⟩
  session := h.session
  admitted := h.admitted
  fresh := h.fresh
  known e' he' := h.known e' (List.mem_cons_of_mem _ he')

theorem checks_retire (hA : Admits m pw t job r) (hreset : r.payload.command = .softwareReset)
    (hF : Framed m pw t job F) (es : List Nat) (hinv : Inv m s) (hs : F s)
    (hidle : Unclosing m pw t s)
    (hretiring : Retiring m t r es s) :
    Checks m pw t job (Incoming.retire t r.robotId es) s fun x s' =>
      (F s' ∧ Unclosing m pw t s' ∧ Within (m.sturdy t) job x) ∧
        (x = .ok () → Retiring m t r [] s') := by
  have hends : r.payload.command.endsInput = false := by simp [hreset, Command.endsInput]
  have hne : r.payload.command ≠ .teleopStop := by simp [hreset]
  have hcloser : Power.closer.Le pw := Power.closer_le (hA.closes hne)
  induction es generalizing s with
  | nil => exact Safe.ret ⟨⟨hs, hidle, trivial⟩, fun _ => hretiring⟩
  | cons e es ih =>
    refine Safe.readThen ?_
    have hG : Framed m .closer t job fun s' => F s' ∧ Retiring m t r (e :: es) s' :=
      (hF.mono hcloser).and (framed_retiring r (e :: es) (fun _ => id) id id)
    have hstep : Checks m pw t job (given ((s.entry e).robotId = r.robotId) do
        given ((s.entry e).command = .setLidarPower) do
          Prog.modify fun s => { s with
            lidarRecoveryRequired := Function.update s.lidarRecoveryRequired r.robotId true }
        finish t e (if (s.entry e).uncertain then .timeout else .canceled)
          (if (s.entry e).uncertain then
            "Previous outcome unknown; superseded by an explicit software reset."
          else "Superseded by an explicit software reset; this command will not resume.") :
        Handler Unit) s fun x s' =>
          (F s' ∧ Unclosing m pw t s' ∧ Within (m.sturdy t) job x) ∧ Retiring m t r es s' := by
      refine checks_given (fun hrobot => ?_) fun hrobot => ⟨⟨hs, hidle, trivial⟩,
        hretiring.tail fun hopen => hrobot hopen.2.2⟩
      have hlidar : Checks m pw t job (given ((s.entry e).command = .setLidarPower)
          (Prog.modify fun s => { s with
            lidarRecoveryRequired := Function.update s.lidarRecoveryRequired r.robotId true }) :
          Handler Unit) s fun x s' =>
            (F s' ∧ Retiring m t r (e :: es) s') ∧ Unclosing m pw t s' ∧ s'.entry e = s.entry e ∧
              x = .ok () := by
        refine checks_given (fun _ => ?_) fun _ => ⟨⟨hs, hretiring⟩, hidle, rfl, rfl⟩
        have hact : ∀ {pw}, Act m pw t job s { s with
            lidarRecoveryRequired := Function.update s.lidarRecoveryRequired r.robotId true } :=
          .aside _ _ _ _ _ _ _ _ (fun _ h => .inl h) (fun _ => le_rfl) fun _ h => h
        exact Safe.modify hact fun _ => ⟨hG.kept _ _ hinv hact ⟨hs, hretiring⟩, hidle, rfl, rfl⟩
      refine Safe.bind hinv hlidar ?_ (fun _ _ _ h => absurd h.2.2.2 (by simp))
      rintro ⟨⟩ s₁ hinv₁ ⟨⟨hs₁, hretiring₁⟩, hidle₁, hentry, -⟩
      obtain ⟨hown, hcleared, hunowned, -⟩ := hretiring₁.path hends
      have hrobot₁ : (s₁.entry e).robotId = r.robotId := hentry ▸ hrobot
      have hlt : e < s₁.entries := hretiring₁.known e List.mem_cons_self
      have hcloses : Closes m job e s₁ := by
        refine ⟨hlt, fun hactive => .superseded ⟨r.client, r.payload, ?_, hreset, ?_⟩ ?_,
          fun _ o ho => ?_, fun _ htimer => ?_⟩
        · rw [hrobot₁]
          exact hA.job_eq hne
        · exact List.mem_map_of_mem (f := Prod.fst) hretiring₁.admitted
        · intro hn hcommand
          have hopen := (hinv₁.unique (m.distinct_of_named hn)).mem_active hinv₁ hlt hactive
          exact hcleared.uncertain hn hreset e ⟨⟨_, hopen⟩, hcommand, hrobot₁⟩
        · rw [hrobot₁] at ho
          exact absurd (hunowned.symm.trans ho) (by simp)
        · simp [hA.not_timer hne] at htimer
      refine Checks.weaken hcloser hinv₁ (checks_finish hG hinv₁ ⟨hs₁, hretiring₁⟩
        (hidle₁ (hA.closes hne)) hcloses _ _) fun x s₂ _ h =>
          ⟨⟨h.1.1, fun _ => h.2.1, h.2.2.2⟩, h.1.2.tail fun hopen => ?_⟩
      exact h.2.2.1.2 hopen.1
    refine Safe.bind hinv hstep ?_ (fun _ _ _ h => ⟨⟨h.1.1, h.1.2.1, h.1.2.2⟩, by simp⟩)
    rintro ⟨⟩ s₁ hinv₁ ⟨⟨hs₁, hidle₁, -⟩, hretiring₁⟩
    exact ih hinv₁ hs₁ hidle₁ hretiring₁

/-- What has been made sure of before the request is entered into the audit. -/
structure Passed (m : Mode) (t : Nat) (r : Incoming) (s : Dashboard) : Prop where
  path : Path t r (Cleared m r) s
  session : HasSession r.robotId s
  fresh : m.distinct → r.payload.commandId ∉ s.admitted.map Prod.fst ∧
    r.payload.commandId ∉ unfound s.toState

theorem Unique.unissued {id : String} (hu : Unique s) (hid : id ∉ s.admitted.map Prod.fst) :
    Unissued id s := by
  have hissued : ¬Issued s.toState id := by
    rintro ⟨e, he, heq⟩
    exact hid (heq ▸ hu.issued e he)
  exact ⟨hissued, fun hsent => hissued (hu.sent id hsent)⟩

/-- What an admitted request counts on. -/
structure Entered (m : Mode) (t : Nat) (r : Incoming) (s : Dashboard) : Prop where
  path : Path t r (Cleared m r) s
  session : HasSession r.robotId s
  admitted : Admitted r.payload.commandId t s
  fresh : m.distinct → Admitted r.payload.commandId t s ∧ Unissued r.payload.commandId s

theorem framed_entered (r : Incoming) : Framed m .still t job (Entered m t r) := by
  have hpath : Framed m .still t job (Path t r (Cleared m r)) :=
    framed_path (kept_cleared r) id fun _ => id
  have hall := hpath.and ((lasting_hasSession r.robotId).framed.and
    (((lasting_admitted r.payload.commandId t).framed).and
    (Framed.imp fun hd => framed_unissued id hd r.payload.commandId)))
  obtain ⟨⟨P, hP, hFP, hback⟩, hkept⟩ := hall
  refine ⟨⟨P, hP, fun s h => hFP s ⟨h.path, h.session, h.admitted, h.fresh⟩, ?_⟩, ?_⟩
  · intro s op reply hinv hs hr
    obtain ⟨hpath, hsession, hadmitted, hfresh⟩ := hback s op reply hinv hs hr
    exact ⟨hpath, hsession, hadmitted, hfresh⟩
  · intro a b hinv hact h
    obtain ⟨hpath, hsession, hadmitted, hfresh⟩ := hkept a b hinv hact
      ⟨h.path, h.session, h.admitted, h.fresh⟩
    exact ⟨hpath, hsession, hadmitted, hfresh⟩

theorem Act.admitRequest (hA : Admits m pw t job r) (hpassed : Passed m t r s) {pw' : Power} :
    Act m pw' t job s (r.admitRow t s) :=
  .admitRow r.payload.commandId _ hA.spares hpassed.fresh

theorem Passed.entered (hpassed : Passed m t r s) (hinv : Inv m s) :
    Entered m t r (r.admitRow t s) where
  path := hpassed.path.moved rfl fun _ h => ⟨h.unbarred, h.uncertain, h.undriven⟩
  session := hpassed.session
  admitted := List.mem_append_right _ (by simp)
  fresh hd := ⟨List.mem_append_right _ (by simp),
    (hinv.unique hd).unissued (hpassed.fresh hd).1⟩

theorem publishes_audit (hS : Serving m pw t job F revoke n r) (hinv : Inv m s) (hs : F s)
    (hidle : Unclosing m pw t s) (hpassed : Passed m t r s) {session : Nat}
    (hmine : Path t r (Mine r session) s) :
    Publishes m pw t job F n r session (Incoming.audit t revoke r session) s := by
  have hA := hS.admits
  have hF := hS.framed
  have hG : Framed m .still t job fun s' => F s' ∧ Unclosing m pw t s' :=
    (hF.mono Power.still_le).and (framed_unclosing id)
  have hH : Framed m .still t job (Path t r (Mine r session)) :=
    framed_path (kept_mine r session) id fun _ => id
  have hact : ∀ {pw}, Act m pw t job s (r.admitRow t s) := .admitRequest hA hpassed
  refine Safe.bind hinv (Checks.weaken Power.still_le hinv
    (checks_execute hG (hG.and ((framed_entered r).and hH)) hinv hact ⟨hs, hidle⟩
      ⟨hG.kept _ _ hinv hact ⟨hs, hidle⟩, hpassed.entered hinv, hmine⟩) fun _ _ _ h => h) ?_
    (fun _ _ _ h => ⟨⟨h.1.1, h.1.2, h.2.1.error⟩, by simp⟩)
  rintro ⟨⟩ s₁ hinv₁ ⟨-, -, hentered⟩
  obtain ⟨⟨hs₁, hidle₁⟩, hentered, hmine₁⟩ := hentered rfl
  have hretire : Checks m pw t job (given (r.payload.command = .softwareReset) do
      Prog.modify (disown r.robotId)
      let s ← Prog.read
      Incoming.retire t r.robotId (s.active.map Prod.snd) : Handler Unit) s₁ fun x s' =>
        (F s' ∧ Unclosing m pw t s' ∧ Within (m.sturdy t) job x) ∧
          (x = .ok () → Admissible m t r s' ∧ Mine r session s') := by
    refine checks_given (fun hreset => ?_) fun hreset => ⟨⟨hs₁, hidle₁, trivial⟩, fun _ =>
      ⟨⟨hentered.path, hentered.session, hentered.fresh, fun _ h => absurd h hreset⟩,
        fun hstart => (hmine₁ (by simp [hstart, Command.endsInput])).2 hstart⟩⟩
    have hends : r.payload.command.endsInput = false := by simp [hreset, Command.endsInput]
    have hdisown : ∀ {pw}, Act m pw t job s₁ (disown r.robotId s₁) :=
      .disown r.robotId ((hentered.path hends).2.undriven (.inr hreset)) fun _ _ =>
        .inr ⟨r.client, r.payload, hA.job_eq (by simp [hreset]), hreset,
          List.mem_map_of_mem (f := Prod.fst) hentered.admitted⟩
    refine Safe.modifyThen hdisown fun hinv₂ => Safe.readThen ?_
    have hentered₂ := (framed_entered r).kept _ _ hinv₁ hdisown hentered
    refine (checks_retire hA hreset hF _ hinv₂ (hF.kept _ _ hinv₁ hdisown hs₁) hidle₁
      ⟨hentered₂.path.mono fun _ h => ⟨h, by simp [Unowned, disown], ?_⟩, hentered₂.session,
        hentered₂.admitted, hentered₂.fresh, ?_⟩).post hinv₂ fun x s₃ _ h =>
          ⟨h.1, fun hx => ?_⟩
    · rintro e ⟨⟨i, he⟩, -⟩
      exact List.mem_map_of_mem (f := Prod.snd) he
    · intro e he
      obtain ⟨⟨i, e'⟩, hmem, rfl⟩ := List.mem_map.mp he
      exact (hinv₂.active i e' hmem).1
    · have hretiring := h.2 hx
      exact ⟨⟨hretiring.path.mono fun _ h => h.1, hretiring.session, hretiring.fresh,
        fun _ _ e he => List.not_mem_nil ((hretiring.path hends).2.2.2 e he)⟩,
        fun hstart => by simp [hreset] at hstart⟩
  refine Safe.bind hinv₁ hretire ?_ (fun _ _ _ h => ⟨⟨h.1.1, h.1.2.1, h.1.2.2.error⟩, by simp⟩)
  rintro ⟨⟩ s₂ hinv₂ ⟨⟨hs₂, hidle₂, -⟩, hadmissible⟩
  exact publishes_publishCommand hS hinv₂ hs₂ hidle₂ (hadmissible rfl).1 (hadmissible rfl).2

/-! ### The checks -/

theorem prepare_ok {client : BrowserClient} {robotId commandId : String} {session websocket : Nat}
    {a : Answer} {s' : Dashboard}
    (h : prepare client robotId session websocket commandId a s = .ok s') :
    s.owners.lookup robotId = none ∧ (∀ p ∈ s.active, (s.entry p.2).robotId ≠ robotId) ∧
      ∃ baseGeneration, s' = { s with
        owner := Function.update s.owner s.ownerCount {
          commandId, client, robotId, session, websocket, baseGeneration
          generation := (s.session session).generation }
        ownerCount := s.ownerCount + 1
        owners := dictSet s.owners robotId s.ownerCount } := by
  unfold prepare at h
  split at h
  · simp at h
  · rename_i howner
    split at h
    · split at h <;> simp at h
    · rename_i hidle
      split at h
      · simp at h
      · simp at h
      · rename_i baseGeneration _ _
        split at h
        · simp at h
        · split at h
          · simp at h
          · refine ⟨by simpa only [Option.not_isSome_iff_eq_none] using howner,
              by simpa using hidle, baseGeneration, ?_⟩
            simpa using h.symm

/-- What is published is handled. -/
theorem Publishes.handles {session : Nat} {p : Handler Unit} (hinv : Inv m s)
    (h : Publishes m pw t job F n r session p s) : Handles m pw t job F n r p s :=
  Safe.post hinv h fun _ _ _ h => ⟨h.1.1, h.1.2.1, h.1.2.2, fun hx => (h.2 hx).1⟩

theorem handles_prepareStart (hS : Serving m pw t job F revoke n r) (hinv : Inv m s) (hs : F s)
    (hidle : Unclosing m pw t s) (hpassed : Passed m t r s) (session websocket : Nat) :
    Handles m pw t job F n r (Incoming.prepareStart t revoke r session websocket) s := by
  have hA := hS.admits
  unfold Incoming.prepareStart
  split
  · rename_i hstart
    refine Safe.readThen (Safe.answerThen fun a _ => ?_)
    split
    · exact handles_reject hS hinv hs hidle _
    · split
      · exact handles_reject hS hinv hs hidle _
      · rename_i s' hprepare
        obtain ⟨hfree, hactive, baseGeneration, rfl⟩ := prepare_ok hprepare
        have hends : r.payload.command.endsInput = false := by simp [hstart, Command.endsInput]
        have hact : Act m pw t job s _ := .prepare
          { commandId := r.payload.commandId, client := r.client, robotId := r.robotId
            session := session, websocket := websocket, baseGeneration := baseGeneration
            generation := (s.session session).generation }
          (hA.holds hends s (hpassed.path hends).1) hfree
          (fun e he => he.elim fun i hi => hactive (i, e) hi) rfl rfl rfl
          fun hd => ((hinv.unique hd).unissued (hpassed.fresh hd).1).1
        refine Safe.modifyThen hact fun hinv' => ?_
        refine Publishes.handles hinv' (publishes_audit hS hinv' (hS.framed.kept _ _ hinv hact hs)
          hidle ⟨hpassed.path.moved rfl fun _ h => ⟨h.unbarred, h.uncertain, fun hc => ?_⟩,
            hpassed.session, hpassed.fresh⟩ (hpassed.path.moved rfl fun _ _ _ o ho => ?_))
        · simp [hstart, Command.autonomous] at hc
        · simp only [lookup_dictSet, if_true, Option.some.injEq] at ho
          simp [← ho]
  · rename_i hstart
    exact Publishes.handles hinv (publishes_audit hS hinv hs hidle hpassed
      (hpassed.path.mono fun _ _ h => absurd h hstart))

theorem Act.remember (hA : Admits m pw t job r) {pw' : Power} :
    Act m pw' t job s (s.remember r.payload.commandId) := by
  refine .aside _ _ _ _ _ _ _ _ (fun id hid => ?_) (fun _ => le_rfl) fun _ h => h
  have hmem := List.mem_of_mem_drop hid
  split at hmem
  · exact .inl hmem
  · rcases List.mem_append.mp hmem with hmem | hmem
    · exact .inl hmem
    · exact .inr (List.mem_singleton.mp hmem ▸ hA.spares)

/-- What has been made sure of before the request is validated. -/
structure Looked (m : Mode) (t : Nat) (r : Incoming) (s : Dashboard) : Prop where
  path : Path t r (Cleared m r) s
  fresh : m.distinct → r.payload.commandId ∉ s.admitted.map Prod.fst ∧
    r.payload.commandId ∉ unfound s.toState

theorem handles_validate (hS : Serving m pw t job F revoke n r) (hinv : Inv m s) (hs : F s)
    (hidle : Unclosing m pw t s)
    (hlooked : Looked m t r s) : Handles m pw t job F n r (Incoming.validate t revoke r) s := by
  have hact : ∀ {pw}, Act m pw t job s (s.remember r.payload.commandId) := .remember hS.admits
  obtain ⟨seen, hseen⟩ : ∃ seen, s.remember r.payload.commandId = { s with seen := seen } :=
    ⟨_, rfl⟩
  refine Safe.modifyThen hact fun hinv' => ?_
  have hs' := hS.framed.kept _ _ hinv hact hs
  rw [hseen] at hinv' hs' ⊢
  refine Safe.readThen (Safe.answerThen fun a _ => ?_)
  have hreject : ∀ reason, Handles m pw t job F n r (r.reject reason) { s with seen := seen } :=
    fun reason => handles_reject hS hinv' hs' hidle reason
  split
  · exact hreject _
  · split
    · exact hreject _
    · rename_i session websocket hsession
      split
      · exact hreject _
      · split
        · exact hreject _
        · split
          · exact hreject _
          · refine handles_prepareStart hS hinv' hs' hidle
              ⟨hlooked.path.moved rfl fun _ h => ⟨h.unbarred, h.uncertain, h.undriven⟩, ?_,
                hlooked.fresh⟩ session websocket
            obtain ⟨ref, href, -⟩ := Option.bind_eq_some_iff.mp hsession
            exact Option.isSome_of_eq_some href

/-- No one else has entered or is looking up the id. -/
def Alone (m : Mode) (id : String) (s : Dashboard) : Prop :=
  m.distinct → id ∉ s.admitted.map Prod.fst ∧ id ∉ unfound s.toState

theorem alone_of_lookingUp {id : String} (hinv : Inv m s) (hlooking : LookingUp t id false s)
    (hdistinct : m.distinct → (unfound s.toState).Nodup) :
    Alone m id { s with lookups := s.lookups.filter (·.1 ≠ t) } := by
  refine fun hd => ⟨(hinv.unique hd).lookups _ hlooking rfl, fun hid => ?_⟩
  obtain ⟨l, hl, heq⟩ := List.mem_map.mp hid
  obtain ⟨hl, hfound⟩ := List.mem_filter.mp hl
  obtain ⟨hl, hne⟩ := List.mem_filter.mp hl
  have hsame := List.inj_on_of_nodup_map (hdistinct hd) (List.mem_filter.mpr ⟨hl, hfound⟩)
    (List.mem_filter.mpr ⟨hlooking, rfl⟩) heq
  simp [hsame] at hne

theorem checks_commandRecorded (hF : Framed m .still t job F) (hinv : Inv m s) (hs : F s)
    (id : String) :
    Checks m .still t job (Incoming.commandRecorded t id) s fun x s' =>
      F s' ∧ Within (m.sturdy t) job x ∧ (x = .ok false → Alone m id s') ∧
        ∀ found, x = .ok found → found = s.recorded id := by
  refine Safe.readThen ?_
  have hact : Act m .still t job s
      { s with lookups := s.lookups ++ [(t, id, s.recorded id)] } := .lookUp id
  refine Safe.modifyThen hact fun hinv' => ?_
  have hs' := hF.kept _ _ hinv hact hs
  have hlooking : LookingUp t id (s.recorded id)
      { s with lookups := s.lookups ++ [(t, id, s.recorded id)] } :=
    List.mem_append_right _ (by simp)
  obtain ⟨P, hP, hFP, hback⟩ := hF.carried
  have hlookup : Checks m .still t job ((Prog.wait (.lookup id)).andFinally
      (Prog.modify fun s => { s with lookups := s.lookups.filter (·.1 ≠ t) }) : Handler Unit)
      { s with lookups := s.lookups ++ [(t, id, s.recorded id)] } fun x s' =>
        F s' ∧ Within (m.sturdy t) job x ∧ (s.recorded id = false → Alone m id s') := by
    refine Safe.andFinally hinv' (Q := fun x s' => F s' ∧ Within (m.sturdy t) job x ∧
      LookingUp t id (s.recorded id) s' ∧ (m.distinct → (unfound s'.toState).Nodup)) ?_ ?_
    · refine Safe.wait _ ⟨hFP _ hs', hlooking⟩ (hP.and (stable_lookingUp id _)) ?_ ?_
      · exact fun s₁ hinv₁ h hr => ⟨hback s₁ _ _ hinv₁ h.1 hr, trivial, h.2, hr.distinct⟩
      · exact fun x s₁ hinv₁ h hr => ⟨hback s₁ _ _ hinv₁ h.1 hr,
          hr.within.imp fun hq => ⟨hq, rfl⟩, h.2, hr.distinct⟩
    · rintro x s₁ hinv₁ ⟨hs₁, hx, hlooking₁, hdistinct⟩
      have hclean : Act m .still t job s₁
          { s₁ with lookups := s₁.lookups.filter (·.1 ≠ t) } := .lookedUp
      refine Safe.modify hclean fun _ => ⟨hF.kept _ _ hinv₁ hclean hs₁, hx, fun hfound => ?_⟩
      exact alone_of_lookingUp hinv₁ (hfound ▸ hlooking₁) hdistinct
  refine Safe.bind hinv' hlookup ?_ (fun _ _ _ h => ⟨h.1, h.2.1.error, by simp, by simp⟩)
  rintro ⟨⟩ s₁ _ ⟨hs₁, -, halone⟩
  exact Safe.ret ⟨hs₁, trivial, fun hfound => halone (by simpa using hfound),
    fun found hfound => by simpa using hfound.symm⟩

theorem handles_protect (hS : Serving m pw t job F revoke n r) (hinv : Inv m s) (hs : F s)
    (hidle : Unclosing m pw t s)
    (hpath : Path t r (Cleared m r) s) :
    Handles m pw t job F n r (Incoming.protect t revoke r) s := by
  refine Safe.readThen ?_
  split
  · exact handles_reject hS hinv hs hidle _
  · have hG : Framed m .still t job fun s' =>
        (F s' ∧ Unclosing m pw t s') ∧ Path t r (Cleared m r) s' :=
      ((hS.framed.mono Power.still_le).and (framed_unclosing id)).and
        (framed_path (kept_cleared r) id fun _ => id)
    refine Safe.bind hinv (Checks.weaken Power.still_le hinv
      (checks_commandRecorded hG hinv ⟨⟨hs, hidle⟩, hpath⟩ _) fun _ _ _ h => h) ?_
      (fun _ _ _ h => ⟨h.1.1.1, h.1.1.2, h.2.1.error, by simp⟩)
    rintro found s₁ hinv₁ ⟨⟨⟨hs₁, hidle₁⟩, hpath₁⟩, -, halone, -⟩
    split
    · exact handles_reject hS hinv₁ hs₁ hidle₁ _
    · rename_i hfound
      exact handles_validate hS hinv₁ hs₁ hidle₁
        ⟨hpath₁, halone (by simpa using hfound)⟩

theorem handles_takeLease (hS : Serving m pw t job F revoke n r) (hinv : Inv m s) (hs : F s)
    (hidle : Unclosing m pw t s)
    (hpath : Path t r (Cleared m r) s) (user : User) :
    Handles m pw t job F n r (Incoming.takeLease t revoke r user) s := by
  unfold Incoming.takeLease
  split
  · exact handles_protect hS hinv hs hidle hpath
  · refine Safe.readThen ?_
    split
    · exact handles_reject hS hinv hs hidle _
    · have hact : Act m pw t job s { s with
          holders := Function.update s.holders r.robotId
            (some ⟨user.id, user.username, r.client⟩) } :=
        .aside _ _ _ _ _ _ _ _ (fun _ h => .inl h) (fun _ => le_rfl) fun _ h => h
      refine Safe.modifyThen hact fun hinv' => ?_
      exact handles_protect hS hinv' (hS.framed.kept _ _ hinv hact hs) hidle
        (hpath.moved rfl fun _ h => ⟨h.unbarred, h.uncertain, h.undriven⟩)

theorem handles_limitRate (hS : Serving m pw t job F revoke n r) (hinv : Inv m s) (hs : F s)
    (hidle : Unclosing m pw t s)
    (hpath : Path t r (Cleared m r) s) (user : User) :
    Handles m pw t job F n r (Incoming.limitRate t revoke r user) s := by
  refine Safe.answerThen fun a _ => ?_
  split
  · exact handles_reject hS hinv hs hidle _
  · exact handles_takeLease hS hinv hs hidle hpath user

/-- What the checks against a pending reset establish. -/
structure Unreset (m : Mode) (r : Incoming) (s : Dashboard) : Prop where
  unbarred : m.named → r.payload.command ≠ .softwareReset → Unbarred r.robotId s
  uncertain : m.named → r.payload.command = .softwareReset →
    OpenResets r.robotId (fun _ x => x.uncertain = true) s

theorem kept_unreset (r : Incoming) : Kept m r.robotId (Unreset m r) :=
  fun pw t job a b hholds hinv hact h => {
    unbarred := fun hn hc =>
      kept_unbarred r.robotId pw t job a b hholds hinv hact (h.unbarred hn hc)
    uncertain := fun hn hc =>
      kept_openResets r.robotId (fun _ x => x.uncertain = true) (fun _ _ _ hsame => hsame.uncertain)
        pw t job a b hholds hinv hact (h.uncertain hn hc) }

theorem handles_endManual (hS : Serving m pw t job F revoke n r) (hinv : Inv m s) (hs : F s)
    (hidle : Unclosing m pw t s)
    (hpath : Path t r (Unreset m r) s) (user : User) :
    Handles m pw t job F n r (Incoming.endManual t revoke r user) s := by
  refine Safe.readThen ?_
  have hG : Framed m .plain t job fun s' => F s' ∧ Unclosing m pw t s' :=
    (hS.framed.plain hS.admits.issues).and (framed_unclosing id)
  split
  · -- The session is ended before anything is awaited.
    have hunreset : Framed m .plain t job (Path t r (Unreset m r)) :=
      framed_path (kept_unreset r) id fun _ => id
    have hcleared : Framed m .plain t job (Path t r (Cleared m r)) :=
      framed_path (kept_cleared r) id fun _ => id
    have hbefore := hG.and hunreset
    have hafter := hG.and hcleared
    have hend : ∀ s', Inv m s' → (F s' ∧ Unclosing m pw t s') ∧ Path t r (Unreset m r) s' →
        NotDriven s'.toState r.robotId → (F s' ∧ Unclosing m pw t s') ∧ Path t r (Cleared m r) s' :=
      fun s' _ h hdriven => ⟨h.1, h.2.mono fun _ hunreset =>
        ⟨hunreset.unbarred, hunreset.uncertain, fun _ => hdriven⟩⟩
    refine Safe.bind hinv (Checks.weaken (Power.plain_le hS.admits.issues) hinv
      (hS.revokes _ _ _ _ s hbefore hafter hinv hend ⟨⟨hs, hidle⟩, hpath⟩) fun _ _ _ h => h) ?_
      (fun _ _ _ h => ⟨h.1.1.1, h.1.1.2, h.2.error, by simp⟩)
    rintro ⟨⟩ s₁ hinv₁ ⟨⟨⟨hs₁, hidle₁⟩, hpath₁⟩, -⟩
    exact handles_limitRate hS hinv₁ hs₁ hidle₁ hpath₁ user
  · rename_i hemergency
    split
    · exact handles_rejectAfter hS hinv hs hidle (hS.revokes _ _).plain _
    · rename_i hmanual
      refine handles_limitRate hS hinv hs hidle
        (hpath.mono fun _ h => ⟨h.unbarred, h.uncertain, fun hc o ho => ?_⟩) user
      have hstart : r.payload.command = .teleopStart := by
        by_contra hstart
        exact hmanual ⟨hstart, by simp [ho]⟩
      rcases hc with hauto | hreset
      · simp [hstart, Command.autonomous] at hauto
      · simp [hreset, Command.emergency] at hemergency

/-- The pending reset, as its id is taken, is the robot's open one. -/
theorem Incoming.pendingReset_none (hnamed : s.resetPending r.robotId ≠ some "")
    (h : r.pendingReset s.toState = none) : Unbarred r.robotId s := by
  cases hpending : s.resetPending r.robotId with
  | none => exact hpending
  | some i =>
    have hid : i ≠ "" := fun hid => hnamed (hid ▸ hpending)
    simp [Incoming.pendingReset, hpending, hid] at h

theorem Incoming.unreset (hinv : Inv m s)
    (hnamed : m.named → s.resetPending r.robotId ≠ some "")
    (h : ¬((r.pendingReset s.toState).isSome = true ∧ ¬r.payload.command.endsInput = true ∧
      ¬r.explicitRetry s.toState = true)) (hends : r.payload.command.endsInput = false) :
    Unreset m r s := by
  have hretry : (r.pendingReset s.toState) = none ∨ r.explicitRetry s.toState = true := by
    cases hpending : r.pendingReset s.toState with
    | none => exact .inl rfl
    | some i =>
      right
      by_contra hnot
      exact h ⟨by simp [hpending], by simp [hends], hnot⟩
  refine ⟨fun hn hcommand => ?_, fun hn _ => ?_⟩
  · rcases hretry with hnone | hretry
    · exact Incoming.pendingReset_none (hnamed hn) hnone
    · simp [Incoming.explicitRetry, hcommand] at hretry
  · rintro e ⟨⟨i, he⟩, hcommand, hrobot⟩
    have hpending := (hinv.barrier hn).reset i e he hcommand
    rw [hrobot] at hpending
    rcases hretry with hnone | hretry
    · have hunbarred := Incoming.pendingReset_none (hnamed hn) hnone
      exact absurd (hunbarred.symm.trans hpending) (by simp)
    · have hid : i ≠ "" := fun hid => hnamed hn (hid ▸ hpending)
      simp only [Incoming.explicitRetry, Incoming.pendingReset, hpending,
        Bool.and_eq_true] at hretry
      obtain ⟨e', he', huncertain⟩ : ∃ e', s.active.lookup i = some e' ∧
          (s.entry e').uncertain = true := by
        simpa [Option.filter, hid, Option.any_eq_true] using hretry.2
      have hsame := (hinv.unique (m.distinct_of_named hn)).entries e' e
        (hinv.active i e' (mem_of_lookup he')).1 (hinv.active i e he).1
        ((hinv.active i e' (mem_of_lookup he')).2.trans (hinv.active i e he).2.symm)
      exact hsame ▸ huncertain

/-- **Admission.** -/
theorem handles_handle (hS : Serving m pw t job F revoke n r) (hinv : Inv m s) (hs : F s)
    (hidle : Unclosing m pw t s)
    (hlock : r.payload.command.endsInput = false → ownLock t s r.robotId ∧
      (m.named → s.resetPending r.robotId ≠ some "")) :
    Handles m pw t job F n r (Incoming.handle t revoke r) s := by
  have hreject : ∀ reason, Handles m pw t job F n r (r.reject reason) s :=
    handles_reject hS hinv hs hidle
  refine Safe.readThen ?_
  split
  · exact hreject _
  · split
    · exact hreject _
    · split
      · exact handles_rejectAfter hS hinv hs hidle (.given fun _ => (hS.revokes _ _).plain) _
      · split
        · exact hreject _
        · split
          · exact hreject _
          · rename_i hpending
            exact handles_endManual hS hinv hs hidle
              (fun hends => ⟨(hlock hends).1,
                Incoming.unreset hinv (hlock hends).2 hpending hends⟩) _

/-! ### Requests -/

/-- A `teleop_stop` may be requested by any handler. -/
theorem plain_requestStop (client : BrowserClient) (robotId : String) {payload : CommandRequest}
    (hstop : payload.command = .teleopStop) (hnew : ∀ n, ¬m.reserved payload.commandId n) :
    PlainFrom m (m.sturdy t) t job s (requestStop t client robotId payload) := by
  refine .read fun F hF hinv hs => ?_
  have hA : Admits m .plain t job ⟨client, robotId, payload, s.revisions robotId⟩ := {
    holds := fun hends => by simp [hstop, Command.endsInput] at hends
    issues := trivial
    closes := fun hne => absurd hstop hne
    job_eq := fun hne => absurd hstop hne
    spares := fun n hn => absurd hn (hnew n)
    received := fun hstart => by simp [hstop] at hstart }
  have hrevoke : Revokes m t job fun robotId _ =>
      (endInput t robotId false >>= fun _ => ret () : Handler Unit) :=
    fun robotId _ => (ends_endInput robotId false).bind fun _ _ => .ret ()
  have hS : Serving m .plain t job F (fun robotId _ => endInput t robotId false >>= fun _ => ret ())
      0 ⟨client, robotId, payload, s.revisions robotId⟩ :=
    ⟨hA, hF, hrevoke, fun _ _ => Nat.zero_le _⟩
  exact (handles_handle hS hinv hs False.elim fun hends => by
    simp [hstop, Command.endsInput] at hends).post hinv fun _ _ _ h => ⟨h.1, h.2.2.1⟩

end

end PatrolBot.Server
