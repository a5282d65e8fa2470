import PatrolBot.ServerAdmission

/-!
# Requests, replies and timers stay within the discipline

The handlers that browsers, robots and timers start.  A request takes its
robot's admission lock before it enters admission and returns it at the end; a
reply closes the command it ends; a timer closes its own command, and then its
task is cancelled at the next await.
-/

namespace PatrolBot.Server

open Coroutine Coroutine.Prog Coroutine.Discipline

section

variable {m : Mode} {pw : Power} {t : Nat} {job : Job} {s : Dashboard} {F : Dashboard → Prop}

theorem ends_revoke (robotId : String) (issue zeroSent : Bool) :
    Ends m t job robotId (revoke t robotId issue zeroSent) := by
  refine (ends_endInput robotId zeroSent).bind fun owner s => ?_
  cases owner with
  | none => exact .ret ()
  | some o =>
    dsimp only
    split
    · exact plain_issueStop (fun client robotId payload s hstop hnew =>
        plain_requestStop client robotId hstop hnew) robotId o
    · exact .ret ()

theorem plain_revoke (robotId : String) (issue zeroSent : Bool) :
    PlainFrom m (m.sturdy t) t job s (revoke t robotId issue zeroSent) :=
  (ends_revoke robotId issue zeroSent).plain

/-! ### Requests -/

theorem framed_ownLock (hlocks : ¬pw.locks) (robotId : String) :
    Framed m pw t job fun s => ownLock t s robotId :=
  .of_stable (fun _ hne _ _ _ _ hact h => hact.ownLock (.inl hne) h)
    fun _ _ _ hact h => hact.ownLock (.inr hlocks) h

/-- Waiting for an admission lock does not raise. -/
theorem Resumes.admission {robotId : String} {x : Interrupt}
    (h : Resumes m t job s (.admission robotId) (some x)) :
    Within True job (.error x : Except Interrupt Unit) := by
  cases x with
  | exception =>
    have hreply := h.replies
    simp [PatrolBot.Server.replies] at hreply
  | cancelled => exact h.within (α := Unit)

theorem checks_acquireAdmission (robotId : String) (hF : Lasting m F) (hinv : Inv m s)
    (hidle : Idle m t s) (hs : F s) (hnamed : m.named → s.resetPending robotId ≠ some "") :
    Checks m (.full t) t job (acquireAdmission t robotId) s fun x s' =>
      (Idle m t s' ∧ F s') ∧ Within True job x ∧ (x = .ok () → ownLock t s' robotId ∧
        (m.named → s'.resetPending robotId ≠ some "")) := by
  refine Safe.readThen ?_
  dsimp only
  split
  · rename_i hfree
    have hnone : (s.admissionLock robotId).holder = none := by
      simpa using (Bool.and_eq_true_iff.mp hfree).1
    have henter : Act m (.full t) t job s { s with
        admissionLock := Function.update s.admissionLock robotId
          ((s.admissionLock robotId).enter t) } :=
      .admission robotId _ trivial fun k _ hk => by simp [hnone] at hk
    refine Safe.modify henter fun _ =>
      ⟨⟨hidle, hF _ _ _ _ _ hinv henter hs⟩, trivial, fun _ => ⟨?_, hnamed⟩⟩
    simp [ownLock, Lock.enter]
  · have hqueue : Act m (.full t) t job s { s with
        admissionLock := Function.update s.admissionLock robotId
          ((s.admissionLock robotId).queue t ()) } :=
      .admission robotId _ trivial fun _ _ hk => hk
    refine Safe.modifyThen hqueue fun hinv₁ => ?_
    have hwait : Checks m (.full t) t job (Prog.wait (.admission robotId) : Handler Unit)
        { s with
          admissionLock := Function.update s.admissionLock robotId
            ((s.admissionLock robotId).queue t ()) } fun x s' =>
          (Idle m t s' ∧ F s') ∧ Within True job x ∧
            (x = .ok () → (s'.admissionLock robotId).holder = none ∧
              (m.named → s'.resetPending robotId ≠ some "")) := by
      refine Safe.wait (fun s' => Idle m t s' ∧ F s') ⟨hidle, hF _ _ _ _ _ hinv hqueue hs⟩
        (stable_idle.and hF.stable) ?_ fun x s' _ h hr => ⟨h, hr.admission, by simp⟩
      intro s' hinv' h hr
      have hturn := hr.replies
      simp only [replies] at hturn
      split at hturn
      · simp at hturn
      · exact ⟨h, trivial, fun _ => ⟨by simpa using (Bool.and_eq_true_iff.mp hturn).1,
          fun hn => hinv'.unblank hn (hr.named hn) robotId⟩⟩
    refine Safe.bind hinv₁ hwait ?_ fun _ _ _ h => ⟨h.1, h.2.1, by simp⟩
    rintro ⟨⟩ s' hinv' ⟨⟨hidle', hs'⟩, -, hturn⟩
    obtain ⟨hnone, hnamed'⟩ := hturn rfl
    have htake : Act m (.full t) t job s' { s' with
        admissionLock := Function.update s'.admissionLock robotId
          ((s'.admissionLock robotId).take t) } :=
      .admission robotId _ trivial fun k _ hk => by simp [hnone] at hk
    refine Safe.modify htake fun _ =>
      ⟨⟨hidle', hF _ _ _ _ _ hinv' htake hs'⟩, trivial, fun _ => ⟨?_, hnamed'⟩⟩
    simp [ownLock, Lock.take]

theorem Starts.request {client : BrowserClient} {robotId : String} {payload : CommandRequest}
    (h : Starts m t (.request client robotId payload) s) :
    Admits m (.admitted t) t (.request client robotId payload)
      ⟨client, robotId, payload, s.revisions robotId⟩ where
  holds _ _ hown := hown
  issues := trivial
  closes _ := trivial
  job_eq _ := rfl
  spares := h.spares _ rfl
  received := h.received

/-- **A request.**  Unless the database fails it, a start is rejected or its
    frame is handed over before the request ends. -/
theorem safe_request {client : BrowserClient} {robotId : String} {payload : CommandRequest}
    (hinv : Inv m s) (hidle : Idle m t s)
    (hstarts : Starts m t (.request client robotId payload) s) :
    Checks m (.full t) t (.request client robotId payload)
      (handleBrowserRequest t client robotId payload) s fun _ s' => Idle m t s' ∧
        (m.sturdy t → StartHandled t ⟨client, robotId, payload, s.revisions robotId⟩
          s.published.length s') := by
  have hA := hstarts.request
  have hrevoke : Revokes m t (.request client robotId payload)
      fun robotId issue => revoke t robotId issue false := fun _ _ => ends_revoke _ _ _
  have hle : (Power.admitted t).Le (.full t) := Power.le_full fun _ _ h => h
  have hbegan : Lasting m fun s' => s.published.length ≤ s'.published.length := lasting_began _
  -- Only the database ends a request in another way than by its return.
  have hhandled : ∀ {x : Except Interrupt Unit} {G : Prop},
      Within (m.sturdy t) (.request client robotId payload) x → (x = .ok () → G) →
        m.sturdy t → G := by
    intro x G hx hG hsturdy
    cases x with
    | ok => exact hG rfl
    | error x =>
      cases x with
      | exception => exact absurd hsturdy hx
      | cancelled => simp [Within, Job.isTimer] at hx
  refine Safe.readThen ?_
  dsimp only
  split
  · rename_i hends
    exact Checks.weaken hle hinv (handles_handle ⟨hA, hbegan.framed, hrevoke, fun _ h => h⟩ hinv
      le_rfl (fun _ => hidle) fun h => absurd hends (by simp [h])) fun _ _ _ h =>
        ⟨h.2.1 trivial, hhandled h.2.2.1 h.2.2.2⟩
  · refine Safe.bind hinv (checks_acquireAdmission robotId hbegan hinv hidle le_rfl fun hn =>
      hinv.unblank hn (hstarts.named hn) robotId) ?_ fun x _ _ h =>
        ⟨h.1.1, hhandled (h.2.1.imp fun _ => trivial) (fun hx => by simp at hx)⟩
    rintro ⟨⟩ s₁ hinv₁ ⟨⟨hidle₁, hbegan₁⟩, -, hentered⟩
    have hS : Serving m (.admitted t) t (.request client robotId payload)
        (fun s' => ownLock t s' robotId ∧ s.published.length ≤ s'.published.length)
        (fun robotId issue => revoke t robotId issue false) s.published.length
        ⟨client, robotId, payload, s.revisions robotId⟩ :=
      ⟨hA, (framed_ownLock id robotId).and hbegan.framed, hrevoke, fun _ h => h.2⟩
    refine Safe.andFinally hinv₁ (Checks.weaken hle hinv₁ (handles_handle hS hinv₁
      ⟨(hentered rfl).1, hbegan₁⟩ (fun _ => hidle₁) fun _ => hentered rfl) fun _ _ _ h => h) ?_
    rintro x s₂ hinv₂ ⟨⟨hown₂, -⟩, hidle₂, hx, hhandled₂⟩
    have hrelease : Act m (.full t) t (.request client robotId payload) s₂ { s₂ with
        admissionLock := Function.update s₂.admissionLock robotId
          (s₂.admissionLock robotId).release } :=
      .admission robotId _ trivial fun k hne hk =>
        absurd (Option.some.inj (hk.symm.trans hown₂)) hne
    exact Safe.modify hrelease fun _ => ⟨hidle₂ trivial, fun hsturdy =>
      lasting_startHandled _ _ _ _ _ _ _ _ hinv₂ hrelease (hhandled hx hhandled₂ hsturdy)⟩

/-! ### Robot replies -/

/-- The commands of a manual session are released before they are closed. -/
theorem checks_released (hF : Framed m pw t job F) (hinv : Inv m s) (hs : F s) {e : Nat}
    (hsettles : (s.entry e).command.manual = true →
      Settles m job s (s.entry e).commandId (s.entry e).robotId) :
    Checks m pw t job (given (s.entry e).command.manual (terminal e)) s fun x s' =>
      F s' ∧ OwnersOnly s s' ∧
        ((s.entry e).command.manual = true → Released s' (s.entry e)) ∧ x = .ok () :=
  checks_given (fun hmanual => (checks_terminal hF hinv hs (hsettles hmanual)).post hinv
    fun _ _ _ h => ⟨h.1, h.2.1, fun _ => h.2.2.1, h.2.2.2⟩)
    fun hmanual => ⟨hs, ⟨_, _, _, rfl⟩, fun h => absurd h hmanual, rfl⟩

theorem plain_publishAck (session e : Nat) (accepted : Bool) (reason : Option String) :
    PlainFrom m (m.sturdy t) t job s (publishAck t session e accepted reason) := by
  refine .read (.answer fun a _ => ?_)
  dsimp only
  split
  · split
    · rename_i o hconfirms
      refine .modifyThen (fun _ => .setPhase fun _ => ?_) (plain_publishReply _ _)
      have hstands := (Option.filter_eq_some_iff.mp hconfirms).2
      simp only [Bool.and_eq_true] at hstands
      exact hstands.1.1.1.2
    · exact .bind (plain_revoke _ _ _) fun _ _ => plain_publishReply _ _
  · exact plain_publishReply _ _

/-- What a reply finds: its command, in `active`, and its session. -/
structure Addressed (session e : Nat) (commandId : String) (s : Dashboard) : Prop where
  known : e < s.entries
  named : (s.entry e).commandId = commandId
  opened : session < s.sessions
  robot : (s.session session).robotId = (s.entry e).robotId

theorem lasting_addressed (session e : Nat) (commandId : String) :
    Lasting m (Addressed session e commandId) := by
  intro pw t job a b hinv hact h
  obtain ⟨hlt, hsame⟩ := lasting_known e (a.entry e) pw t job a b hinv hact ⟨h.known, .refl _⟩
  obtain ⟨hsession, hrobot⟩ := lasting_sessionOf session (a.entry e).robotId pw t job a b hinv
    hact ⟨h.opened, h.robot⟩
  exact ⟨hlt, hsame.commandId.trans h.named, hsession, hrobot.trans hsame.robotId.symm⟩

theorem safe_handleAck {session e : Nat} {commandId : String} {accepted : Bool}
    {reason : Option String} (hjob : job = .reply session (.ack commandId accepted reason))
    (hinv : Inv m s) (hidle : Idle m t s) (hanswers : Addressed session e commandId s) :
    Checks m .ending t job (handleAck t session e accepted reason) s fun _ s' => Idle m t s' := by
  have hG : ∀ {pw : Power}, ¬pw.closes →
      Framed m pw t job fun s' => Idle m t s' ∧ Addressed session e commandId s' :=
    fun hcloses => (framed_idle hcloses).and (lasting_addressed _ _ _).framed
  have hacked : ∀ {pw}, Act m pw t job s (s.setEntry e { s.entry e with acked := true }) :=
    .setEntry hinv ⟨rfl, rfl, rfl, id⟩
  refine Safe.modifyThen hacked fun hinv₁ => ?_
  have hplain : Framed m .plain t job fun s' => Idle m t s' ∧ Addressed session e commandId s' :=
    hG id
  have hG₁ := hplain.kept _ _ hinv hacked ⟨hidle, hanswers⟩
  refine Safe.bind hinv₁ ((plain_publishAck session e accepted reason).checks (hG id) trivial
    hinv₁ hG₁) ?_ fun _ _ _ h => h.1.1
  rintro ⟨⟩ s₂ hinv₂ ⟨⟨hidle₂, hanswers₂⟩, -⟩
  refine checks_given (fun hrejected => Safe.readThen ?_) fun _ => hidle₂
  obtain rfl : accepted = false := by simpa using hrejected
  have hsettles : Settles m job s₂ (s₂.entry e).commandId (s₂.entry e).robotId := by
    rw [hanswers₂.named, ← hanswers₂.robot]
    exact .rejected session reason hjob ⟨hanswers₂.opened, rfl⟩
  refine Safe.bind hinv₂ (Checks.weaken (Power.plain_le trivial) hinv₂
    (checks_released (hG id) hinv₂ ⟨hidle₂, hanswers₂⟩ fun _ => hsettles) fun _ _ _ h => h) ?_
    fun _ _ _ h => h.1.1
  rintro ⟨⟩ s₃ hinv₃ ⟨⟨hidle₃, hanswers₃⟩, hsame, hreleased, -⟩
  have hentry : s₃.entry = s₂.entry := by
    obtain ⟨owner, owners, revisions, rfl⟩ := hsame
    rfl
  refine Checks.weaken (Power.closer_le trivial) hinv₃ (checks_finish framed_true hinv₃ trivial
    hidle₃ ⟨hanswers₃.known, fun _ => .settled ?_ ?_, fun hmanual => ?_, fun _ htimer => ?_⟩ _ _)
    fun _ _ _ h => h.2.1
  · exact hentry ▸ hsettles.ownersOnly hsame
  · simp [hjob, Job.isRequest]
  · rw [hentry] at hmanual ⊢
    exact hreleased hmanual
  · simp [hjob, Job.isTimer] at htimer

theorem Command.of_held {c : Command} (h : c.held = true) :
    c.manual = true ∨ c = .softwareReset ∨ c = .setLidarPower := by
  cases c <;> simp_all [Command.held, Command.manual]

theorem safe_handleResult {session e : Nat} {commandId : String} {outcome : Outcome}
    {detail : Option String} (hjob : job = .reply session (.result commandId outcome detail))
    (hinv : Inv m s) (hidle : Idle m t s) (hanswers : Addressed session e commandId s) :
    Checks m .ending t job (handleResult t session e outcome detail) s fun _ s' =>
      Idle m t s' := by
  have hG : Framed m .plain t job fun s' => Idle m t s' ∧ Addressed session e commandId s' :=
    (framed_idle id).and (lasting_addressed _ _ _).framed
  have hplain : ∀ {p : Handler Unit} {s : Dashboard}, Inv m s → Idle m t s →
      PlainFrom m (m.sturdy t) t job s p → Checks m .ending t job p s fun _ s' => Idle m t s' :=
    fun hinv hidle hp => (hp.checks (framed_idle id) trivial hinv hidle).post hinv
      fun _ _ _ h => h.1
  refine Safe.readThen ?_
  have hpublish : ∀ {pw}, Act m pw t job s (s.publish (.reply (s.session session).robotId
      (.result (s.entry e).commandId outcome detail))) := .announce _ rfl rfl
  refine Safe.modifyThen hpublish fun hinv₁ => ?_
  obtain ⟨hidle₁, hanswers₁⟩ := hG.kept _ _ hinv hpublish ⟨hidle, hanswers⟩
  have hentry₁ : (s.publish (.reply (s.session session).robotId
      (.result (s.entry e).commandId outcome detail))).entry e = s.entry e := rfl
  generalize s.publish (.reply (s.session session).robotId
    (.result (s.entry e).commandId outcome detail)) = s₁ at hinv₁ hidle₁ hanswers₁ hentry₁ ⊢
  rw [← hentry₁]
  split
  · exact hplain hinv₁ hidle₁ (.bind (plain_revoke _ _ _) fun _ _ => plain_markUncertain _ _)
  · rename_i hknown
    have hsettles : outcome ≠ .timeout →
        Settles m job s₁ (s₁.entry e).commandId (s₁.entry e).robotId := by
      intro houtcome
      rw [hanswers₁.named, ← hanswers₁.robot]
      exact .answered session outcome detail hjob houtcome ⟨hanswers₁.opened, rfl⟩
    refine Safe.bind hinv₁ (Checks.weaken (Power.plain_le trivial) hinv₁
      (checks_released hG hinv₁ ⟨hidle₁, hanswers₁⟩ fun hmanual =>
        hsettles fun houtcome => hknown ⟨hmanual, houtcome⟩) fun _ _ _ h => h) ?_
      fun _ _ _ h => h.1.1
    rintro ⟨⟩ s₂ hinv₂ ⟨⟨hidle₂, hanswers₂⟩, hsame, hreleased, -⟩
    have hentry₂ : s₂.entry = s₁.entry := by
      obtain ⟨owner, owners, revisions, rfl⟩ := hsame
      rfl
    split
    · exact hplain hinv₂ hidle₂ (plain_markUncertain _ _)
    · rename_i hended
      have hcloses : Closes m job e s₂ := by
        refine ⟨hanswers₂.known, fun _ => ?_, fun hmanual => ?_, fun _ htimer => ?_⟩
        · cases hheld : (s₂.entry e).command.held with
          | false => exact .ordinary hheld
          | true =>
            rw [hentry₂] at hheld
            have houtcome : outcome ≠ .timeout := fun houtcome => by
              rcases Command.of_held hheld with hmanual | hpower
              · exact hknown ⟨hmanual, houtcome⟩
              · exact hended ⟨hpower, houtcome⟩
            exact .settled (hentry₂ ▸ (hsettles houtcome).ownersOnly hsame)
              (by simp [hjob, Job.isRequest])
        · rw [hentry₂] at hmanual ⊢
          exact hreleased hmanual
        · simp [hjob, Job.isTimer] at htimer
      have hlidar : Checks m .ending t job (given ((s₁.entry e).command = .setLidarPower) do
          Prog.modify fun s => { s with
            lidarStateAfter := Function.update s.lidarStateAfter (s₁.entry e).robotId true
            lidarRecoveryRequired := Function.update s.lidarRecoveryRequired
              (s₁.entry e).robotId (outcome ≠ .succeeded) } : Handler Unit) s₂ fun x s' =>
            Idle m t s' ∧ Closes m job e s' ∧ x = .ok () := by
        refine checks_given (fun _ => ?_) fun _ => ⟨hidle₂, hcloses, rfl⟩
        refine Safe.modify (.aside _ _ _ _ _ _ _ _ (fun _ h => .inl h) (fun _ => le_rfl)
          fun _ h => h) fun _ => ⟨hidle₂, ⟨hcloses.known, fun hactive => ?_, hcloses.released,
            hcloses.calm⟩, rfl⟩
        cases hcloses.closable hactive with
        | ordinary hordinary => exact .ordinary hordinary
        | settled hsettles hmanual => exact .settled (hsettles.congr rfl rfl rfl) hmanual
        | superseded hsupersedes hunknown => exact .superseded hsupersedes hunknown
      refine Safe.bind hinv₂ hlidar ?_ fun _ _ _ h => h.1
      rintro ⟨⟩ s₃ hinv₃ ⟨hidle₃, hcloses₃, -⟩
      exact Checks.weaken (Power.closer_le trivial) hinv₃ (checks_finish framed_true hinv₃ trivial
        hidle₃ hcloses₃ _ _) fun _ _ _ h => h.2.1

theorem safe_handleRobotReply {session : Nat} {payload : RobotReply} (hinv : Inv m s)
    (hidle : Idle m t s) (hsession : session < s.sessions) :
    Checks m .ending t (.reply session payload) (handleRobotReply t session payload) s
      fun _ s' => Idle m t s' := by
  refine Safe.readThen ?_
  dsimp only
  split
  · exact hidle
  · rename_i e hlookup
    have hactive := hinv.active _ e (mem_of_lookup hlookup)
    split
    · exact hidle
    · rename_i hrobot
      have haddressed : Addressed session e payload.commandId s :=
        ⟨hactive.1, hactive.2, hsession, by simpa using Eq.symm (not_not.mp hrobot)⟩
      split
      · exact hidle
      · split
        · exact safe_handleAck rfl hinv hidle haddressed
        · exact Safe.modify (.announce _ rfl rfl) fun _ => hidle
        · exact safe_handleResult rfl hinv hidle haddressed

/-! ### Timers -/

/-- A timer that comes back to close its command does so for a map transaction. -/
theorem returns_of_calm {kind : TimerKind} {e timer : Nat}
    (hcalm : m.calm → ¬ClosesOnWaking s.toState (.timer kind e timer))
    (hheld : (s.entry e).command.held = false) (hacked : kind = .ack → (s.entry e).acked = false)
    (hactive : s.isActive (s.entry e).commandId = true) :
    Returns m (.timer kind e timer) e s := by
  refine fun hc _ => ⟨⟨kind, timer, rfl⟩, ?_⟩
  by_contra hnot
  exact hcalm hc ⟨hheld, hactive, hacked, hnot⟩

theorem safe_wakeTimer {kind : TimerKind} {e timer : Nat} (hinv : Inv m s) (hidle : Idle m t s)
    (hstarts : Starts m t (.timer kind e timer) s) :
    Checks m .ending t (.timer kind e timer) (wakeTimer t kind e timer) s
      fun _ s' => Idle m t s' := by
  obtain ⟨x, hx, hfound⟩ : ∃ x, s.timers[timer]? = some x ∧ x.entry = e := by
    have hadmits := hstarts.admits
    simp only [admits, Option.any_eq_true, Bool.and_eq_true, beq_iff_eq] at hadmits
    obtain ⟨x, hx, h⟩ := hadmits
    exact ⟨x, hx, h.1.1.2⟩
  have hlt : e < s.entries := hfound ▸ hinv.timers x (List.mem_of_getElem? hx)
  have hwake : ∀ {pw}, Act m pw t (.timer kind e timer) s { s with
      timers := s.timers.modify timer fun timer => { timer with fired := true } } := by
    refine .mark s.entry _ (fun _ => .refl _) fun x hx => ?_
    obtain ⟨i, hi⟩ := List.mem_iff_getElem?.mp hx
    rw [List.getElem?_modify] at hi
    obtain ⟨y, hy, rfl⟩ := Option.map_eq_some_iff.mp hi
    have hentry := hinv.timers y (List.mem_of_getElem? hy)
    split <;> exact hentry
  refine Safe.modifyThen hwake fun hinv' => ?_
  have hcalm : m.calm → ¬ClosesOnWaking { s with
      timers := s.timers.modify timer fun timer => { timer with fired := true } }.toState
      (.timer kind e timer) := hstarts.calm
  have hidle' : Idle m t { s with
      timers := s.timers.modify timer fun timer => { timer with fired := true } } := hidle
  have hlt' : e < { s with
      timers := s.timers.modify timer fun timer => { timer with fired := true } }.entries := hlt
  generalize { s with
    timers := s.timers.modify timer fun timer => { timer with fired := true } } = s
    at hinv' hcalm hidle' hlt' ⊢
  have hplain : ∀ {p : Handler Unit}, PlainFrom m (m.sturdy t) t (.timer kind e timer) s p →
      Checks m .ending t (.timer kind e timer) p s fun _ s' => Idle m t s' :=
    fun hp => (hp.checks (framed_idle id) trivial hinv' hidle').post hinv' fun _ _ _ h => h.1
  have hclose : ∀ outcome detail, (s.entry e).command.held = false →
      (kind = .ack → (s.entry e).acked = false) →
      Checks m .ending t (.timer kind e timer) (closeOut t e outcome detail) s
        fun _ s' => Idle m t s' := fun outcome detail hheld hacked =>
    (checks_closeOut framed_true hinv' trivial hidle' hlt' hheld
      (returns_of_calm hcalm hheld hacked) outcome detail).post hinv' fun _ _ _ h => h.2.1
  cases kind with
  | ack =>
    refine Safe.readThen ?_
    dsimp only
    split
    · rename_i hacked
      split
      · exact hplain (.bind (plain_revoke _ _ _) fun _ _ => plain_markUncertain _ _)
      · exact hplain (.bind (plain_revoke _ _ _) fun _ _ => plain_markUncertain _ _)
      · exact hplain (plain_markUncertain _ _)
      · exact hplain (plain_markUncertain _ _)
      · refine hclose _ _ ?_ fun _ => by simpa using hacked
        cases hcommand : (s.entry e).command <;> simp_all [Command.held, Command.manual]
    · exact hidle'
  | result =>
    refine Safe.readThen ?_
    dsimp only
    split
    · exact hplain (.bind (plain_revoke _ _ _) fun _ _ => plain_markUncertain _ _)
    · exact hplain (.bind (plain_revoke _ _ _) fun _ _ => plain_markUncertain _ _)
    · exact hplain (plain_markUncertain _ _)
    · exact hplain (plain_markUncertain _ _)
    · refine hclose _ _ ?_ (by simp)
      cases hcommand : (s.entry e).command <;> simp_all [Command.held, Command.manual]

end

end PatrolBot.Server
