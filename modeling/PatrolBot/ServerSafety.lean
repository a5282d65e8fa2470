import PatrolBot.ServerReplies

/-!
# Every handler of the server stays within the discipline

Manual input and the handlers of the hub, which alone change the sessions and
the robots' presence, and then all handlers together: `sound` ties the event
loop to the discipline, for the runs that the mode speaks of.
-/

namespace PatrolBot.Server

open Coroutine Coroutine.Prog Coroutine.Discipline

section

variable {m : Mode} {pw : Power} {t : Nat} {job : Job} {s : Dashboard} {q : Prop}
  {F : Dashboard → Prop}

/-! ### Manual input -/

/-- A frame beyond the last one is the latest of its session. -/
theorem latest_of_lt (hinv : Inv m s) {robotId : String} {o : Nat} {frame : Velocity}
    (ho : s.owners.lookup robotId = some o) (hseq : (s.owner o).seq < frame.seq) :
    Latest o frame (s.setOwner o { s.owner o with seq := frame.seq }) := by
  have hlt := (hinv.owners robotId o ho).1
  refine fun _ => ⟨hlt, by simp [Dashboard.setOwner], fun q hq => ?_⟩
  have hle := (hinv.seqs o hlt).2 q (by simpa [Dashboard.setOwner] using hq)
  omega

theorem plain_velocity (client : BrowserClient) (robotId : String) (frame : Velocity) :
    PlainFrom m (m.sturdy t) t job s (velocity t client robotId frame) := by
  refine .read ?_
  split
  · exact .ret ()
  · rename_i o ho
    refine .answer fun a _ => ?_
    dsimp only
    split
    · exact .ret ()
    · rename_i hchecks
      have hseq : (s.owner o).seq < frame.seq := by
        simp only [not_or, not_le] at hchecks
        exact hchecks.2.2.2.1
      split
      · exact .ret ()
      · split
        · exact plain_revoke _ _ _
        · split
          · exact .ret ()
          · have hact : Act m .plain t job s
                (s.setOwner o { s.owner o with seq := frame.seq }) :=
              .setOwner ⟨rfl, rfl, rfl, rfl, rfl, rfl, rfl, id, le_of_lt hseq, .refl _, .inl⟩
                (.of_same rfl rfl)
            intro F hF hinv hs
            refine PlainFrom.modifyThen (fun _ => hact)
              (PlainFrom.bind (fun F hF hinv' hs' => ?_) fun sent s' => ?_) F hF hinv hs
            · exact (checks_send hF hinv' hs' (latest_of_lt hinv ho hseq)).post hinv'
                fun _ _ _ h => ⟨h.1, h.2.imp fun _ => trivial⟩
            · split
              · exact plain_revoke _ _ _
              · split
                · exact plain_revoke _ _ _
                · exact .ret ()

theorem plain_changed (session : Nat) : PlainFrom m (m.sturdy t) t job s (changed t session) := by
  refine .read ?_
  dsimp only
  split
  · exact .ret ()
  · refine .answer fun a _ => ?_
    split
    · exact plain_revoke _ _ _
    · exact .ret ()

theorem plain_watchdog (owners : List (String × Nat)) :
    PlainFrom m (m.sturdy t) t job s (watchdog t owners) := by
  induction owners generalizing s with
  | nil => exact .ret ()
  | cons p rest ih =>
    refine .read (.answer fun a _ => .bind (.given fun _ => ?_) fun _ _ => ih)
    split
    · exact plain_revoke _ _ _
    · exact plain_changed _

/-! ### The hub -/

theorem plain_emitEvents (robotId : String) (events : List (String × String × String)) :
    PlainFrom m (m.sturdy t) t job s (emitEvents robotId events) := by
  induction events generalizing s with
  | nil => exact .ret ()
  | cons event rest ih => exact .bind (plain_emitEvent _ _ _ _) fun _ _ => ih

theorem plain_connectionEvents (session : Nat) :
    PlainFrom m (m.sturdy t) t job s (connectionEvents t session) :=
  .read (.answer fun _ _ => .bind (plain_emitEvents _ _) fun _ _ => plain_changed _)

/-- A handler of the hub: it may change the sessions and the robots' presence. -/
def Power.host : Power := ⟨fun _ _ => False, False, True, False, True⟩

theorem Power.plain_le_host : Power.plain.Le .host := Power.plain_le trivial

theorem attends_of_ne (hjob : ∀ session websocket, job ≠ .disconnected session websocket)
    (robotId : String) : Attends m job s robotId :=
  fun _ session websocket h => absurd h (hjob session websocket)

/-- A presence is published by a handler that attends to the robot. -/
theorem checks_publishConnection {A : Dashboard → Prop} (hA : Framed m .plain t job A)
    {session : Nat} {robotId : String} (hattends : ∀ s, A s → Attends m job s robotId)
    (hpresence : ∀ s state, A s → A (s.setRobotState robotId state)) (hinv : Inv m s) (hs : A s)
    (hidle : Idle m t s) (hrobot : (s.session session).robotId = robotId) :
    Checks m .host t job (publishConnection session) s fun _ s' => Idle m t s' := by
  refine Safe.readThen (Safe.answerThen fun a _ => ?_)
  dsimp only
  split
  · rw [hrobot]
    have hsave : PlainFrom m True t job s
        (given (connectionOf s.toState a session = .offline ∧ a.hasPose)
          (suppress (execute id)) : Handler Unit) :=
      .given fun _ => plain_suppress fun F hF hinv hs =>
        (plain_execute (fun _ => .stay) F hF hinv hs).post hinv fun _ _ _ h =>
          ⟨h.1, h.2.imp False.elim⟩
    refine Safe.bind hinv (hsave.checks (hA.and (framed_idle id)) trivial hinv ⟨hs, hidle⟩) ?_
      fun _ _ _ h => h.1.2
    rintro ⟨⟩ s₁ hinv₁ ⟨⟨hs₁, hidle₁⟩, -⟩
    refine Safe.modifyThen (.presence robotId _ trivial (hattends s₁ hs₁)) fun hinv₂ => ?_
    exact Safe.modify (.connection robotId _ trivial (hattends _ (hpresence s₁ _ hs₁)))
      fun _ => hidle₁
  · exact hidle

theorem checks_connectionEvents (session : Nat) (hinv : Inv m s) (hidle : Idle m t s) :
    Checks m .host t job (connectionEvents t session) s fun _ s' => Idle m t s' :=
  (PlainFrom.checks (plain_connectionEvents session) (framed_idle id) trivial hinv hidle).post hinv
    fun _ _ _ h => h.1

theorem safe_applyConnection (hjob : ∀ session websocket, job ≠ .disconnected session websocket)
    (session : Nat) (hinv : Inv m s) (hidle : Idle m t s) :
    Checks m .host t job (applyConnection t session) s fun _ s' => Idle m t s' := by
  refine Safe.bind hinv (checks_publishConnection framed_true (fun _ _ => attends_of_ne hjob _)
    (fun _ _ _ => trivial) hinv trivial hidle rfl) ?_ fun _ _ _ h => h
  exact fun _ s' hinv' hidle' => checks_connectionEvents session hinv' hidle'

/-- The socket of the session, if it still has one, has been closed. -/
def Shut (session : Nat) (s : Dashboard) : Prop :=
  session < s.sessions ∧
    ∀ websocket, (s.session session).websocket = some websocket → websocket ∈ s.closedSockets

theorem lasting_shut (session : Nat) : Lasting m (Shut session) := by
  rintro pw t job a b hinv hact ⟨hlt, hshut⟩
  cases hact with
  | aside _ _ _ _ _ _ _ _ _ _ hsockets =>
    exact ⟨hlt, fun websocket h => hsockets websocket (hshut websocket h)⟩
  | opens r websocket generation _ _ _ =>
    refine ⟨Nat.lt_succ_of_lt hlt, fun websocket h => hshut websocket ?_⟩
    simpa [Nat.ne_of_lt hlt] using h
  | clear session' _ =>
    refine ⟨hlt, fun websocket h => hshut websocket ?_⟩
    by_cases heq : session = session'
    · simp [clearWebsocket, heq] at h
    · simpa [clearWebsocket, heq] using h
  | _ => exact ⟨hlt, hshut⟩

theorem checks_closePrevious {A : Dashboard → Prop} (hA : Framed m .plain t job A)
    (hinv : Inv m s) (hs : A s) {previous : Nat} (hlt : previous < s.sessions) :
    Checks m .plain t job (closePrevious previous) s fun x s' =>
      (A s' ∧ Shut previous s') ∧ Within False job x := by
  refine Safe.readThen ?_
  split
  · rename_i websocket hwebsocket
    have hclose : Act m .plain t job s
        { s with closedSockets := s.closedSockets ++ [websocket] } :=
      .aside _ _ _ _ _ _ _ _ (fun _ h => .inl h) (fun _ => le_rfl)
        fun _ h => List.mem_append_left _ h
    have hshut : Shut previous { s with closedSockets := s.closedSockets ++ [websocket] } := by
      refine ⟨hlt, fun websocket' h => ?_⟩
      obtain rfl : websocket = websocket' := Option.some.inj (hwebsocket.symm.trans h)
      simp
    refine Safe.tryCatch hinv (Q := fun x s' => (A s' ∧ Shut previous s') ∧ Within False job x)
      ?_ (fun _ _ _ h => h) ?_
    · refine Safe.modifyThen hclose fun hinv' => ?_
      exact PlainFrom.wait .socket _ (hA.and (lasting_shut previous).framed) hinv'
        ⟨hA.kept _ _ hinv hclose hs, hshut⟩
    · rintro x s' - ⟨hs', hx⟩
      cases x with
      | exception => exact ⟨hs', trivial⟩
      | cancelled => exact ⟨hs', hx⟩
  · rename_i hnone
    exact Safe.ret ⟨⟨hs, hlt, fun websocket h => by simp [hnone] at h⟩, trivial⟩

theorem safe_robotConnected (robotId : String) (websocket : Nat)
    (hjob : job = .connected robotId websocket) (hinv : Inv m s) (hidle : Idle m t s) :
    Checks m .host t job (robotConnected t robotId websocket) s fun _ s' => Idle m t s' := by
  have hne : ∀ session websocket, job ≠ .disconnected session websocket := by simp [hjob]
  have hcreate : Act m .host t job s (getOrCreate robotId s) := by
    unfold getOrCreate
    split
    · exact .stay
    · rename_i hnone
      exact .opens robotId none 0 trivial ⟨_, hjob⟩ fun _ previous h => by simp [hnone] at h
  have hidle₁ : Idle m t (getOrCreate robotId s) := (framed_idle id).kept _ _ hinv hcreate hidle
  refine Safe.modifyThen hcreate fun hinv₁ => Safe.readThen ?_
  generalize getOrCreate robotId s = s at hinv₁ hidle₁ ⊢
  split
  · exact hidle₁
  · rename_i previous hprevious
    have htrack : Act m .host t job s
        { s with connecting := s.connecting ++ [(t, robotId, previous)] } := by
      refine .track _ s.leaving trivial (fun _ _ h => List.mem_append_left _ h) fun _ _ h => h
    refine Safe.modifyThen htrack fun hinv₂ => ?_
    refine Safe.modifyThen (.presence robotId _ trivial (attends_of_ne hne _)) fun hinv₃ => ?_
    have hA : Framed m .plain t job fun s' => Replaces m t robotId previous s' ∧ Idle m t s' :=
      (framed_replaces id robotId previous).and (framed_idle id)
    have hB : Framed m .plain t job fun s' =>
        (Replaces m t robotId previous s' ∧ Idle m t s') ∧ previous < s'.sessions :=
      hA.and (.of_stable (fun other _ job a b hinv hact h =>
        (lasting_sessionOf previous _ _ other job a b hinv hact ⟨h, rfl⟩).1) fun a b hinv hact h =>
          (lasting_sessionOf previous _ _ _ _ a b hinv hact ⟨h, rfl⟩).1)
    refine Safe.bind hinv₃ ((plain_revoke robotId true false).checks hB trivial hinv₃
      ⟨⟨⟨List.mem_append_right _ (by simp), fun _ => hprevious⟩, hidle₁⟩,
        (hinv₁.robots robotId previous hprevious).1⟩) ?_ fun _ _ _ h => h.1.1.2
    rintro ⟨⟩ s₄ hinv₄ ⟨⟨hs₄, hlt⟩, -⟩
    refine Safe.bind hinv₄ (Checks.weaken Power.plain_le_host hinv₄
      (checks_closePrevious hA hinv₄ hs₄ hlt) fun _ _ _ h => h) ?_ fun _ _ _ h => h.1.1.2
    rintro ⟨⟩ s₅ hinv₅ ⟨⟨⟨hreplaces, hidle₅⟩, hshut⟩, -⟩
    refine Safe.readThen ?_
    have hinstall : Act m .host t job s₅ (installSession robotId previous websocket s₅) := by
      refine .opens robotId (some websocket) _ trivial ⟨_, hjob⟩ fun hserial previous' h => ?_
      obtain rfl : previous = previous' := Option.some.inj ((hreplaces.2 hserial).symm.trans h)
      exact ⟨rfl, hshut.2⟩
    refine Safe.modifyThen hinstall fun hinv₆ => ?_
    have hforget : Act m .host t job (installSession robotId previous websocket s₅)
        { installSession robotId previous websocket s₅ with
          connecting := (installSession robotId previous websocket s₅).connecting.filter
            (·.1 ≠ t) } :=
      .track _ _ trivial (fun x hx h => List.mem_filter.mpr ⟨h, by simpa using hx⟩)
        fun _ _ h => h
    refine Safe.modifyThen hforget fun hinv₇ => Safe.answerThen fun a _ => ?_
    refine Safe.modifyThen (.presence robotId _ trivial (attends_of_ne hne _)) fun hinv₈ => ?_
    exact safe_applyConnection hne _ hinv₈ hidle₅

theorem safe_robotDisconnected (session websocket : Nat) (hinv : Inv m s) (hidle : Idle m t s) :
    Checks m .host t (.disconnected session websocket)
      (robotDisconnected t session websocket) s fun _ s' => Idle m t s' := by
  refine Safe.readThen ?_
  dsimp only
  split
  · rename_i hcurrent
    generalize hrobot : (s.session session).robotId = robotId at hcurrent ⊢
    have hsession : SessionOf session robotId s :=
      ⟨(hinv.robots robotId session hcurrent.1).1, hrobot⟩
    have hleave : Act m .host t (.disconnected session websocket) s
        { s with leaving := s.leaving ++ [(t, session)] } :=
      .track s.connecting _ trivial (fun _ _ h => h) fun _ _ h => List.mem_append_left _ h
    refine Safe.modifyThen hleave fun hinv₁ => ?_
    have hA : Framed m .plain t (.disconnected session websocket) fun s' =>
        SessionOf session robotId s' ∧ Leaves m t session s' :=
      (lasting_sessionOf session robotId).framed.and (framed_leaves id session)
    have hattends : ∀ s', SessionOf session robotId s' ∧ Leaves m t session s' →
        Attends m (.disconnected session websocket) s' robotId := by
      rintro s' ⟨hsession, hleaves⟩ hprompt session' websocket' hjob
      cases hjob
      exact hsession.2 ▸ hleaves.2 hprompt
    have hs₁ : SessionOf session robotId { s with leaving := s.leaving ++ [(t, session)] } ∧
        Leaves m t session { s with leaving := s.leaving ++ [(t, session)] } :=
      ⟨hsession, List.mem_append_right _ (by simp), fun _ => by
        simpa [hrobot] using hcurrent.1⟩
    refine Safe.bind hinv₁ ((plain_revoke robotId true false).checks (hA.and (framed_idle id))
      trivial hinv₁ ⟨hs₁, hidle⟩) ?_ fun _ _ _ h => h.1.2
    rintro ⟨⟩ s₂ hinv₂ ⟨⟨hs₂, hidle₂⟩, -⟩
    refine Safe.modifyThen (.clear session trivial) fun hinv₃ => ?_
    have hs₃ : SessionOf session robotId (clearWebsocket session s₂) ∧
        Leaves m t session (clearWebsocket session s₂) := by
      refine ⟨⟨hs₂.1.1, by simpa using hs₂.1.2⟩, hs₂.2.1, fun hprompt => ?_⟩
      rw [clearWebsocket_robotId]
      exact hs₂.2.2 hprompt
    refine Safe.modifyThen (.presence robotId _ trivial (hattends _ hs₃)) fun hinv₄ => ?_
    refine Safe.bind hinv₄ (checks_publishConnection hA hattends (fun _ _ h => h) hinv₄ hs₃ hidle₂
      hs₃.1.2) ?_ fun _ _ _ h => h
    rintro ⟨⟩ s₅ hinv₅ hidle₅
    have hleft : Act m .host t (.disconnected session websocket) s₅
        { s₅ with leaving := s₅.leaving.filter (·.1 ≠ t) } :=
      .track s₅.connecting _ trivial (fun _ _ h => h)
        fun x hx h => List.mem_filter.mpr ⟨h, by simpa using hx⟩
    exact Safe.modifyThen hleft fun hinv₆ => checks_connectionEvents session hinv₆ hidle₅
  · exact hidle

theorem safe_handleRobotMessage
    (hjob : ∀ session websocket, job ≠ .disconnected session websocket) (session : Nat)
    (frame : Telemetry) (hidle : Idle m t s) :
    Checks m .host t job (handleRobotMessage t session frame) s fun _ s' => Idle m t s' := by
  have hattends : ∀ s robotId, Attends m job s robotId := fun _ => attends_of_ne hjob
  refine Safe.readThen ?_
  dsimp only
  split
  · refine Safe.answerThen fun a _ => ?_
    refine Safe.modifyThen (.presence _ _ trivial (hattends _ _)) fun hinv₁ => Safe.readThen ?_
    split
    · split
      · exact Safe.modifyThen (.presence _ _ trivial (hattends _ _)) fun hinv₂ =>
          checks_connectionEvents session hinv₂ hidle
      · exact hidle
    · refine Safe.bind (Q := fun _ s' => Idle m t s') hinv₁ ?_ (fun _ s' hinv' hidle' =>
        checks_connectionEvents session hinv' hidle') fun _ _ _ h => h
      refine Safe.modifyThen (.presence _ _ trivial (hattends _ _)) fun hinv₂ => ?_
      exact Safe.modify (.aside _ _ _ _ _ _ _ _ (fun _ h => .inl h) (fun _ => le_rfl)
        fun _ h => h) fun _ => hidle
    · exact checks_connectionEvents session hinv₁ hidle
  · exact hidle

/-! ### Browsers that leave -/

theorem plain_revokeClient (client : BrowserClient) (owners : List (String × Nat)) :
    PlainFrom m (m.sturdy t) t job s (revokeClient t client owners) := by
  induction owners generalizing s with
  | nil => exact .ret ()
  | cons p rest ih =>
    exact .read (.bind (.given fun _ => plain_revoke _ _ _) fun _ _ => ih)

theorem plain_cancelMaps (client : BrowserClient) (es : List Nat) :
    PlainFrom m (m.sturdy t) t job s (cancelMaps client es) := by
  induction es generalizing s with
  | nil => exact .ret ()
  | cons e es ih => exact .read (.bind (.given fun _ => plain_cancelMap _) fun _ _ => ih)

theorem plain_cancelForClient (client : BrowserClient) :
    PlainFrom m (m.sturdy t) t job s (cancelForClient t client) :=
  .read (.bind (plain_revokeClient _ _) fun _ _ => .read (plain_cancelMaps _ _))

/-! ### All handlers -/

theorem Power.ending_le_full : Power.ending.Le (.full t) := Power.le_full fun _ _ => False.elim

theorem Power.host_le_full : Power.host.Le (.full t) := Power.le_full fun _ _ => False.elim

theorem safe_handleRobotCommandReply (session : Nat) (payload : RobotReply) (hinv : Inv m s)
    (hidle : Idle m t s) :
    Checks m (.full t) t (.reply session payload) (handleRobotCommandReply t session payload) s
      fun _ s' => Idle m t s' := by
  refine Safe.readThen ?_
  dsimp only
  split
  · rename_i hcurrent
    refine Safe.answerThen fun a _ => ?_
    refine Safe.modifyThen (.presence _ _ trivial (attends_of_ne (by simp) _)) fun hinv₁ => ?_
    exact Checks.weaken Power.ending_le_full hinv₁ (safe_handleRobotReply hinv₁ hidle
      (hinv.robots _ session hcurrent).1) fun _ _ _ h => h
  · exact hidle

/-- **Every handler stays within the discipline.** -/
theorem safe_body (hinv : Inv m s) (hidle : Idle m t s) (hstarts : Starts m t job s) :
    Checks m (.full t) t job (body t job) s fun _ s' => Idle m t s' := by
  have hplain : ∀ {p : Handler Unit}, PlainFrom m (m.sturdy t) t job s p →
      Checks m (.full t) t job p s fun _ s' => Idle m t s' := fun hp =>
    (hp.checks (framed_idle id) trivial hinv hidle).post hinv fun _ _ _ h => h.1
  cases job with
  | request client robotId payload =>
    exact (safe_request hinv hidle hstarts).post hinv fun _ _ _ h => h.1
  | malformed client robotId commandId command reason =>
    exact hplain (plain_rejectAudited _ _ _ _ (hstarts.spares commandId rfl))
  | velocity client robotId frame => exact hplain (plain_velocity _ _ _)
  | reply session payload => exact safe_handleRobotCommandReply session payload hinv hidle
  | message session frame =>
    exact Checks.weaken Power.host_le_full hinv
      (safe_handleRobotMessage (by simp) session frame hidle) fun _ _ _ h => h
  | connected robotId websocket =>
    exact Checks.weaken Power.host_le_full hinv
      (safe_robotConnected robotId websocket rfl hinv hidle) fun _ _ _ h => h
  | disconnected session websocket =>
    exact Checks.weaken Power.host_le_full hinv
      (safe_robotDisconnected session websocket hinv hidle) fun _ _ _ h => h
  | connectionCheck session =>
    exact Checks.weaken Power.host_le_full hinv
      (safe_applyConnection (by simp) session hinv hidle) fun _ _ _ h => h
  | browserGone client =>
    exact hplain (.modify fun _ => .aside _ _ _ _ _ _ _ _ (fun _ h => .inl h)
      (fun _ => le_rfl) fun _ h => h)
  | cancelForClient client => exact hplain (plain_cancelForClient _)
  | timer kind entry timer =>
    exact Checks.weaken Power.ending_le_full hinv (safe_wakeTimer hinv hidle hstarts)
      fun _ _ _ h => h
  | watchdog => exact hplain (.read (plain_watchdog _))
  | withdraw o task =>
    exact hplain (.modify fun _ => .setSendLock (List.filter_sublist.filterMap _))

/-- What a guard of the event loop has to promise of its runs. -/
structure Guards (m : Mode) (guard : ServerWorld → ServerEvent → Prop) : Prop where
  starts : ∀ w job answers, guard w (.start job answers) → admits w.shared job = true →
    Starts m w.started job w.shared ∧ ∀ i n, ¬m.reserved (answers i).uuid n
  resumes : ∀ w task reply answers, guard w (.resume task.id reply answers) → task ∈ w.tasks →
    replies w.shared task.id task.job task.op reply = true →
    Resumes m task.id task.job w.shared task.op reply ∧ ∀ i n, ¬m.reserved (answers i).uuid n

/-- **The event loop obeys the discipline.** -/
theorem Guards.sound {guard : ServerWorld → ServerEvent → Prop} (hguards : Guards m guard) :
    Sound (discipline m) server guard (Idle m) where
  step _ _ _ _ hinv hact := hact.inv hinv
  final _ := stable_idle
  starts := hguards.starts
  resumes := hguards.resumes
  body _ _ _ hinv hidle hstarts := safe_body hinv hidle hstarts

theorem orderly_started (m : Mode) (audit : String → Option AuditRow) :
    Orderly (discipline m) (Idle m) (System.initial (started audit)) where
  inv := inv_started m audit
  carried _ h := absurd h List.not_mem_nil
  final _ _ _ _ h := absurd h List.not_mem_nil

/-- **Every state a guarded run leads to keeps the invariant.** -/
theorem Guards.orderly {guard : ServerWorld → ServerEvent → Prop} (hguards : Guards m guard)
    {audit : String → Option AuditRow} {es : List ServerEvent}
    (along : server.loop.Along guard (System.initial (started audit)) es) :
    Orderly (discipline m) (Idle m) (runServer audit es) :=
  hguards.sound.run (orderly_started m audit) along

/-! ### Runs that single out no task -/

/-- The mode speaks of no task in particular. -/
structure Mode.Even (m : Mode) : Prop where
  reserved : ∀ id n, ¬m.reserved id n
  received : ∀ t robotId revision, ¬m.received t robotId revision
  attended : ∀ t s, m.attended t s

theorem Mode.Even.guards (hm : m.Even) {guard : ServerWorld → ServerEvent → Prop}
    (hstarts : ∀ w job answers, guard w (.start job answers) →
      (m.named → Unblank w.shared.toState) ∧
        (m.calm → ¬ClosesOnWaking w.shared.toState job))
    (hresumes : ∀ w task reply answers, guard w (.resume task.id reply answers) → task ∈ w.tasks →
      replies w.shared task.id task.job task.op reply = true →
      Resumes m task.id task.job w.shared task.op reply) : Guards m guard where
  starts w job answers hguard hadmits := by
    obtain ⟨hnamed, hcalm⟩ := hstarts w job answers hguard
    refine ⟨⟨hadmits, hnamed, hcalm, fun id _ n hn => absurd hn (hm.reserved id n), ?_⟩,
      fun i n => hm.reserved _ n⟩
    cases job with
    | request => exact fun _ robotId revision h => absurd h (hm.received _ robotId revision)
    | _ => trivial
  resumes w task reply answers hguard hmem hreplies :=
    ⟨hresumes w task reply answers hguard hmem hreplies, fun i n => hm.reserved _ n⟩

/-- Nothing is asked of the runs. -/
def Mode.any : Mode where
  distinct := False
  named := False
  sturdy _ := False
  calm := False
  serial := False
  prompt := False
  reserved _ _ := False
  received _ _ _ := False
  attended _ _ := True
  distinct_of_named := id
  distinct_of_calm := id
  sturdy_of_calm hc _ := hc

theorem guards_any : Guards .any fun _ _ => True :=
  Mode.Even.guards ⟨fun _ _ => id, fun _ _ _ => id, fun _ _ => trivial⟩
    (fun _ _ _ _ => ⟨False.elim, False.elim⟩) fun _ _ _ _ _ _ hreplies =>
      ⟨hreplies, False.elim, False.elim, False.elim, False.elim, False.elim, False.elim, trivial⟩

/-- **Every reachable state keeps the invariant.** -/
theorem orderly_run (audit : String → Option AuditRow) (es : List ServerEvent) :
    Orderly (discipline .any) (Idle .any) (runServer audit es) :=
  guards_any.orderly (server.loop.along_true _ es)

theorem inv_run (audit : String → Option AuditRow) (es : List ServerEvent) :
    Inv .any (runServer audit es).shared :=
  (orderly_run audit es).inv

end

end PatrolBot.Server
